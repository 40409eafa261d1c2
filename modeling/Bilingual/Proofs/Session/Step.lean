import Bilingual.Service

/-!
The ways in which a message can go. The layer around the server looks at the part
of the session and at the method; the server is reached in four of the ways only.
-/

namespace Bilingual

/-- The report that a message is, if it is a well-formed one. -/
def Incoming.report? : Incoming → Option Notice
  | .message method none params =>
      match Method.ofName? method with
      | some (.report read) => params.bind read
      | _ => none
  | _ => none

/-- Whether a message is to end the session. -/
def Incoming.ends : Incoming → Bool
  | .message method _ _ =>
      match Method.ofName? method with
      | some .shutdown | some .exit => true
      | _ => false
  | .reply _ _ => false

/-- Neither a report nor the end. -/
def Incoming.Idle (m : Incoming) : Prop := m.report? = none ∧ m.ends = false

def Response.isResult : Response → Bool
  | .result _ _ => true
  | _ => false

namespace Service

inductive Step (environment : Environment) (s : Service) (files : FileTree) :
    Incoming → Outcome → Prop
  | rest (m : Incoming) (response : Response) :
      (s.phase = .active → m.Idle) → response.isResult = false →
      Step environment s files m (s.rest files response)
  | startup (method : String) (id : Rpc.Id) (params : Option Json) (startup : Startup) :
      s.phase = .waiting → Method.ofName? method = some .startup →
      params.bind Startup.ofJson? = some startup →
      Step environment s files (.message method (some id) params)
        (serve .active (.result id capabilities) (s.server.begin files environment startup))
  | shutdown (method : String) (id : Rpc.Id) :
      s.phase = .active → Method.ofName? method = some .shutdown →
      Step environment s files (.message method (some id) none)
        (serve .stopped (.result id .null) (s.server.finish files))
  /-- The last request is ill-formed. -/
  | halt (method : String) (id : Option Rpc.Id) (params : Option Json) (response : Response) :
      s.phase = .active → Method.ofName? method = some .shutdown → response.isResult = false →
      Step environment s files (.message method id params)
        (({ s with phase := .stopped } : Service).rest files response)
  | exit (method : String) (id : Option Rpc.Id) (params : Option Json) :
      s.phase ≠ .exited → Method.ofName? method = some .exit →
      Step environment s files (.message method id params)
        (({ s with phase := .exited } : Service).rest files .silent)
  | report (m : Incoming) (notice : Notice) :
      s.phase = .active → m.report? = some notice →
      Step environment s files m (serve .active .silent (s.server.handle files notice))
  | reply (id : Rpc.Id) (answer : Except Rpc.Error Json) :
      s.phase ≠ .exited →
      Step environment s files (.reply id answer)
        (serve s.phase .silent (s.server.answered files id answer))

variable {environment : Environment} {s : Service} {files : FileTree} {m : Incoming}

theorem step_refuse (id : Option Rpc.Id) (error : Rpc.Error)
    (h : s.phase = .active → m.Idle) :
    Step environment s files m (s.refuse files id error) := by
  cases id with
  | none => exact .rest m _ h rfl
  | some id => exact .rest m _ h rfl

theorem step_startup {method : String} (hm : Method.ofName? method = some .startup)
    (id : Option Rpc.Id) (params : Option Json) :
    Step environment s files (.message method id params)
      (s.startup files environment id params) := by
  have hidle : (Incoming.message method id params).Idle := by
    cases id <;> simp [Incoming.Idle, Incoming.report?, Incoming.ends, hm]
  unfold startup
  split
  · next hphase =>
      cases id with
      | none => exact .rest _ _ (fun _ => hidle) rfl
      | some id =>
          cases hp : params.bind Startup.ofJson? with
          | none => exact step_refuse _ _ fun _ => hidle
          | some startup => exact .startup method id params startup hphase hm hp
  · exact step_refuse _ _ fun _ => hidle

theorem step_shutdown {method : String} (hm : Method.ofName? method = some .shutdown)
    (id : Option Rpc.Id) (params : Option Json) :
    Step environment s files (.message method id params) (s.shutdown files id params) := by
  unfold shutdown
  split
  · next hphase =>
      cases id with
      | none => exact .halt method none params _ hphase hm rfl
      | some id =>
          cases params with
          | none => exact .shutdown method id hphase hm
          | some params => exact .halt method (some id) (some params) _ hphase hm rfl
  · next hphase => exact step_refuse _ _ fun h => absurd h hphase

theorem step_report (id : Option Rpc.Id) (notice : Option Notice) (hends : m.ends = false)
    (hm : m.report? = if id = none then notice else none) :
    Step environment s files m (s.report files id notice) := by
  unfold report
  split
  · next hphase =>
      cases id with
      | some id => exact step_refuse _ _ fun _ => ⟨by simpa using hm, hends⟩
      | none =>
          cases notice with
          | none => exact .rest _ _ (fun _ => ⟨by simpa using hm, hends⟩) rfl
          | some notice => exact .report m notice hphase (by simpa using hm)
  · next hphase => exact step_refuse _ _ fun h => absurd h hphase

theorem step_decline (shape : Shape) (id : Option Rpc.Id) (params : Option Json)
    (h : m.Idle) :
    Step environment s files m (s.decline files shape id params) := by
  unfold decline
  split
  · exact step_refuse _ _ fun _ => h
  · exact step_refuse _ _ fun _ => h

theorem step_receive (hphase : s.phase ≠ .exited) (method : String) (id : Option Rpc.Id)
    (params : Option Json) :
    Step environment s files (.message method id params)
      (s.receive files environment method id params) := by
  unfold receive
  cases hm : Method.ofName? method with
  | none =>
      have hidle : (Incoming.message method id params).Idle := by
        cases id <;> simp [Incoming.Idle, Incoming.report?, Incoming.ends, hm]
      by_cases hpre : method.startsWith "$/"
      · simp only [if_pos hpre]
        exact .rest _ _ (fun _ => hidle) rfl
      · simp only [if_neg hpre]
        exact step_refuse _ _ fun _ => hidle
  | some kind =>
      cases kind with
      | startup => exact step_startup hm id params
      | shutdown => exact step_shutdown hm id params
      | exit => exact .exit method id params hphase hm
      | cancel =>
          refine step_refuse _ _ fun _ => ?_
          cases id <;> simp [Incoming.Idle, Incoming.report?, Incoming.ends, hm]
      | report read =>
          refine step_report _ _ ?_ ?_
          · simp [Incoming.ends, hm]
          · cases id <;> simp [Incoming.report?, hm]
      | ignored =>
          refine step_report _ _ ?_ ?_
          · simp [Incoming.ends, hm]
          · cases id <;> simp [Incoming.report?, hm]
      | unserved shape =>
          refine step_decline _ _ _ ?_
          cases id <;> simp [Incoming.Idle, Incoming.report?, Incoming.ends, hm]

/-- Every message goes one of these ways. -/
theorem step_spec (environment : Environment) (s : Service) (files : FileTree) (m : Incoming) :
    Step environment s files m (s.step files environment m) := by
  cases m with
  | message method id params =>
      by_cases hphase : s.phase = .exited
      · simp only [step, if_pos hphase]
        exact .rest _ _ (fun h => absurd (h.symm.trans hphase) (by decide)) rfl
      · simp only [step, if_neg hphase]
        exact step_receive hphase method id params
  | reply id answer =>
      by_cases hphase : s.phase = .exited
      · simp only [step, if_pos hphase]
        exact .rest _ _ (fun _ => ⟨rfl, rfl⟩) rfl
      · simp only [step, if_neg hphase]
        exact .reply id answer hphase

end Service

end Bilingual
