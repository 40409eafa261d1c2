import Mathlib.Data.List.Induction
import Bilingual.Proofs.Server.Settling
import Bilingual.Proofs.Session.Course

/-!
A run and what is left of it when reports about some documents are deleted. Two
sessions are followed side by side, one of which does not take the deleted steps.
-/

namespace Bilingual

/-- The reports about documents, by their methods. -/
def Method.documentNames : List String :=
  ["textDocument/didOpen", "textDocument/didChange", "textDocument/didClose",
    "retag/selectionChanged", "retag/visibleRangesChanged"]

/-- A report about a document that is not here. One that is ill-formed is about none. -/
def Happening.Elsewhere (here : Uri → Prop) (h : Happening) : Prop :=
  ∃ method params, h = .incoming (.message method none params) ∧ method ∈ Method.documentNames ∧
    ∀ n uri, h.report? = some n → n.about? = some uri → ¬ here uri

theorem Method.ofName?_of_documentNames {method : String} (h : method ∈ documentNames) :
    ∃ read, ofName? method = some (.report read) ∧
      ∀ j n, read j = some n → ∃ uri, n.about? = some uri := by
  have hread {α : Type} {parse : Json → Option α} {notice : α → Notice} {j : Json} {n : Notice}
      (habout : ∀ a, ∃ uri, (notice a).about? = some uri)
      (hn : (parse j).map notice = some n) : ∃ uri, n.about? = some uri := by
    obtain ⟨a, -, rfl⟩ := Option.map_eq_some_iff.1 hn
    exact habout a
  simp only [documentNames, List.mem_cons, List.not_mem_nil, or_false] at h
  obtain rfl | rfl | rfl | rfl | rfl := h
  · exact ⟨_, rfl, fun _ _ => hread fun d => ⟨d.uri, rfl⟩⟩
  · exact ⟨_, rfl, fun _ _ => hread fun d => ⟨d.uri, rfl⟩⟩
  · exact ⟨_, rfl, fun _ _ => hread fun uri => ⟨uri, rfl⟩⟩
  · exact ⟨_, rfl, fun _ _ => hread fun m => ⟨m.document, rfl⟩⟩
  · exact ⟨_, rfl, fun _ _ => hread fun m => ⟨m.document, rfl⟩⟩

theorem Happening.elsewhere_of_about {here : Uri → Prop} {method : String} {params : Option Json}
    {uri : Uri} (hmem : method ∈ Method.documentNames)
    (habout : (Incoming.message method none params).report?.bind Notice.about? = some uri)
    (hhere : ¬ here uri) : (incoming (.message method none params)).Elsewhere here := by
  refine ⟨method, params, rfl, hmem, fun n other hn hother => ?_⟩
  rw [show (Incoming.message method none params).report? = some n from hn, Option.bind_some,
    hother] at habout
  obtain rfl := Option.some.inj habout
  exact hhere

namespace Session

variable {environment : Environment} {s s' : Session}

/-- A report about a document elsewhere is passed over, or it is handled. -/
theorem step_of_elsewhere {here : Uri → Prop} {h : Happening} (helse : h.Elsewhere here)
    (environment : Environment) (s : Session) :
    (∃ response, (response = .silent ∨ response = .exited) ∧
      s.step environment h = s.service.rest s.files response) ∨
    ∃ n uri, s.service.phase = .active ∧ n.about? = some uri ∧ ¬ here uri ∧
      s.step environment h =
        Service.serve .active .silent (s.service.server.handle s.files n) := by
  obtain ⟨method, params, rfl, hmem, hhere⟩ := helse
  obtain ⟨read, hm, habout⟩ := Method.ofName?_of_documentNames hmem
  have hreport : (Incoming.message method none params).report? = params.bind read := by
    simp [Incoming.report?, hm]
  simp only [step, Service.step, Service.receive, hm, Service.report]
  split
  · exact Or.inl ⟨.exited, Or.inr rfl, rfl⟩
  · split
    · next hactive =>
        cases hn : params.bind read with
        | none => exact Or.inl ⟨.silent, Or.inl rfl, rfl⟩
        | some n =>
            obtain ⟨j, -, hj⟩ := Option.bind_eq_some_iff.1 hn
            obtain ⟨uri, huri⟩ := habout j n hj
            exact Or.inr ⟨n, uri, hactive, huri, hhere n uri (hreport.trans hn) huri, rfl⟩
    · exact Or.inl ⟨.silent, Or.inl rfl, rfl⟩

/-- What happens in a run, each with what it leaves behind. -/
def steps (environment : Environment) (s : Session) (hs : List Happening) :
    List (Happening × Outcome) :=
  hs.zip (s.outcomes environment hs)

theorem outcomes_length (environment : Environment) (s : Session) (hs : List Happening) :
    (s.outcomes environment hs).length = hs.length := by
  induction hs generalizing s with
  | nil => rfl
  | cons h hs ih => exact congrArg Nat.succ (ih _)

theorem steps_concat (environment : Environment) (s : Session) (hs : List Happening)
    (h : Happening) :
    s.steps environment (hs ++ [h]) =
      s.steps environment hs ++ [(h, (s.after environment hs).step environment h)] := by
  rw [steps, outcomes_concat, List.zip_append (outcomes_length environment s hs).symm]
  rfl

theorem steps_map_snd (environment : Environment) (s : Session) (hs : List Happening) :
    (s.steps environment hs).map Prod.snd = s.outcomes environment hs :=
  List.map_snd_zip (Nat.le_of_eq (outcomes_length environment s hs))

/-- What relates two sessions, if every step that both take keeps it and every step
that is deleted keeps it as well, relates a run to what is left of it. Of the steps that
both take the same is then seen. -/
theorem outcomes_filter {α : Type} (related : Session → Session → Prop) (seen : Outcome → α)
    (idle : Outcome → Prop) {keep : Happening → Bool} {hs : List Happening}
    (hstart : related s s')
    (hkeep : ∀ before h later, hs = before ++ h :: later → keep h = true →
      ∀ t t', t = s.after environment before → related t t' →
        related (t.next environment h) (t'.next environment h) ∧
          seen (t'.step environment h) = seen (t.step environment h))
    (hdrop : ∀ before h later, hs = before ++ h :: later → keep h = false →
      ∀ t t', t = s.after environment before → related t t' →
        related (t.next environment h) t' ∧ idle (t.step environment h)) :
    related (s.after environment hs) (s'.after environment (hs.filter keep)) ∧
      (s'.outcomes environment (hs.filter keep)).map seen =
        ((s.steps environment hs).filter (keep ·.1)).map (seen ·.2) ∧
      ∀ p ∈ s.steps environment hs, keep p.1 = false → idle p.2 := by
  induction hs using List.reverseRecOn with
  | nil => exact ⟨hstart, rfl, by simp [steps]⟩
  | append_singleton hs h ih =>
      obtain ⟨hrelated, hseen, hidle⟩ := ih
        (fun before g later heq => hkeep before g (later ++ [h]) (by simp [heq]))
        (fun before g later heq => hdrop before g (later ++ [h]) (by simp [heq]))
      rw [List.filter_append, steps_concat, List.filter_append, after_concat]
      cases hk : keep h with
      | true =>
          obtain ⟨hnext, hsame⟩ := hkeep hs h [] rfl hk _ _ rfl hrelated
          simp only [List.filter_singleton, hk, cond_true, after_concat, outcomes_concat,
            List.map_append, hseen, List.map_singleton, hsame]
          refine ⟨hnext, trivial, ?_⟩
          intro p hp hdropped
          obtain hp | hp := List.mem_append.1 hp
          · exact hidle p hp hdropped
          · obtain rfl := List.mem_singleton.1 hp
            cases hk.symm.trans hdropped
      | false =>
          obtain ⟨hnext, hlast⟩ := hdrop hs h [] rfl hk _ _ rfl hrelated
          simp only [List.filter_singleton, hk, cond_false, List.append_nil]
          refine ⟨hnext, hseen, ?_⟩
          intro p hp hdropped
          obtain hp | hp := List.mem_append.1 hp
          · exact hidle p hp hdropped
          · obtain rfl := List.mem_singleton.1 hp
            exact hlast

theorem flatMap_filter_of_nil {α β : Type} {f : α → List β} {keep : α → Bool} {xs : List α}
    (h : ∀ x ∈ xs, keep x = false → f x = []) : (xs.filter keep).flatMap f = xs.flatMap f := by
  induction xs with
  | nil => rfl
  | cons x xs ih =>
      have hrest := ih fun y hy => h y (List.mem_cons_of_mem x hy)
      cases hk : keep x with
      | true => rw [List.filter_cons_of_pos hk, List.flatMap_cons, List.flatMap_cons, hrest]
      | false =>
          rw [List.filter_cons_of_neg (by simp [hk]), List.flatMap_cons, hrest,
            h x List.mem_cons_self hk, List.nil_append]

/-- Where the deleted steps say nothing, nothing that is said is missing. -/
theorem flatMap_outcomes_filter {α : Type} {said : Outcome → List α} {keep : Happening → Bool}
    {hs : List Happening}
    (hsaid : (s'.outcomes environment (hs.filter keep)).map said =
      ((s.steps environment hs).filter (keep ·.1)).map (said ·.2))
    (hidle : ∀ p ∈ s.steps environment hs, keep p.1 = false → said p.2 = []) :
    (s'.outcomes environment (hs.filter keep)).flatMap said =
      (s.outcomes environment hs).flatMap said := by
  calc (s'.outcomes environment (hs.filter keep)).flatMap said
      = ((s.steps environment hs).filter (keep ·.1)).flatMap (said ·.2) := by
        rw [List.flatMap_def, hsaid, List.flatMap_def]
    _ = (s.steps environment hs).flatMap (said ·.2) := flatMap_filter_of_nil hidle
    _ = (s.outcomes environment hs).flatMap said := by
        rw [← steps_map_snd, List.flatMap_map]

end Session

end Bilingual
