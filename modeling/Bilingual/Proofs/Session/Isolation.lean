import Bilingual.Proofs.Server.Isolation
import Bilingual.Proofs.Session.Deletion
import Bilingual.Proofs.Session.Messages

/-!
Documents are apart from each other as long as their number is not limited: which
languages one of them is taken for does not depend on what is reported about others.
-/

namespace Bilingual

theorem Course.phase_take {s s' : Service} (hphase : s'.phase = s.phase) (c : Course)
    (environment : Environment) (files files' : FileTree) :
    (c.take environment files' s').service.phase = (c.take environment files s).service.phase := by
  cases c with
  | rest next response => rfl
  | startup id request => rfl
  | shutdown id => rfl
  | report n => rfl
  | reply id answer => exact hphase

/-- A course serves one document alike in two services that know the same of it. -/
theorem Course.take_agreesAt {phase : Phase} {m : Incoming} {c : Course} {s s' : Service}
    {document : Uri} (hplace : c.InPlace phase m) (hgoing : phase ≠ .waiting)
    (h : s.server.AgreesAt document s'.server) (environment : Environment)
    (files files' : FileTree) :
    let o := c.take environment files s
    let o' := c.take environment files' s'
    o.service.server.AgreesAt document o'.service.server ∧
      languagesOf document o'.sent = languagesOf document o.sent := by
  intro o o'
  cases c with
  | rest next response => exact ⟨h, rfl⟩
  | startup id request => exact absurd hplace hgoing
  | shutdown id => exact ⟨h.finish files files', rfl⟩
  | report n =>
      cases habout : n.about? with
      | none =>
          cases n with
          | ready => exact ⟨h, rfl⟩
          | opened d | changed d | closed uri | selection m | viewport m => cases habout
      | some uri =>
          by_cases huri : uri = document
          · obtain ⟨hagrees, hlanguages⟩ := h.handle (huri ▸ habout) files files'
            exact ⟨hagrees, congrArg (List.filter _) hlanguages⟩
          · obtain ⟨hagrees, hnone⟩ :=
              Server.agreesAt_handle h.cache.unbounded habout huri files
            obtain ⟨hagrees', hnone'⟩ :=
              Server.agreesAt_handle h.cache.unbounded' habout huri files'
            exact ⟨(hagrees.symm.trans h).trans hagrees', hnone'.trans hnone.symm⟩
  | reply id answer =>
      obtain ⟨hagrees, hsent⟩ := s.server.answered_agrees files id answer
      obtain ⟨hagrees', hsent'⟩ := s'.server.answered_agrees files' id answer
      refine ⟨h.of_agrees hagrees hagrees', ?_⟩
      exact congrArg (languagesOf document) (hsent'.trans hsent.symm)

namespace Session

/-- Two sessions in the same phase that know the same of one document. They are one
and the same until settings are looked for. -/
structure AgreesAt (document : Uri) (s s' : Session) : Prop where
  phase_eq : s'.service.phase = s.service.phase
  waiting : s.service.phase = .waiting → s' = s
  server : s.service.server.AgreesAt document s'.service.server

variable {environment : Environment} {s s' : Session} {h : Happening} {document : Uri}

theorem agreesAt_refl (h : s.service.server.tagged.cache.capacity = none) (document : Uri) :
    s.AgreesAt document s :=
  ⟨rfl, fun _ => rfl, Server.agreesAt_of_agrees ⟨rfl, rfl, rfl⟩ h document⟩

theorem AgreesAt.step (hs : s.AgreesAt document s')
    (hnext : (s.next environment h).service.server.tagged.cache.capacity = none) :
    (s.next environment h).AgreesAt document (s'.next environment h) ∧
      languagesOf document (s'.step environment h).sent =
        languagesOf document (s.step environment h).sent := by
  by_cases hwaiting : s.service.phase = .waiting
  · rw [hs.waiting hwaiting]
    exact ⟨agreesAt_refl hnext document, rfl⟩
  have hgone : (s.next environment h).service.phase ≠ .waiting :=
    fun hnext => hwaiting (waiting_of_next h hnext)
  cases h with
  | rewritten files => exact ⟨⟨hs.phase_eq, fun hw => absurd hw hgone, hs.server⟩, rfl⟩
  | incoming m =>
      obtain ⟨c, hplace, hc⟩ := Course.exists_leads s.service.phase m
      have hstep := hc environment s.files s.service rfl
      have hstep' := hc environment s'.files s'.service hs.phase_eq
      obtain ⟨hserver, hlanguages⟩ :=
        Course.take_agreesAt hplace hwaiting hs.server environment s.files s'.files
      have hphase := Course.phase_take hs.phase_eq c environment s.files s'.files
      rw [← hstep, ← hstep'] at hserver hlanguages hphase
      exact ⟨⟨hphase, fun hw => absurd hw hgone, hserver⟩, hlanguages⟩

theorem AgreesAt.drop (hs : s.AgreesAt document s') (helse : h.Elsewhere (· = document))
    (environment : Environment) :
    (s.next environment h).AgreesAt document s' ∧
      languagesOf document (s.step environment h).sent = [] := by
  obtain ⟨response, -, hstep⟩ | ⟨n, uri, hphase, habout, hother, hstep⟩ :=
    step_of_elsewhere helse environment s
  · simp only [next, hstep]
    exact ⟨hs, rfl⟩
  · obtain ⟨hagrees, hnone⟩ :=
      Server.agreesAt_handle hs.server.cache.unbounded habout hother s.files
    simp only [next, hstep]
    refine ⟨⟨hs.phase_eq.trans hphase, fun hwaiting => ?_, hagrees.symm.trans hs.server⟩, hnone⟩
    cases hwaiting

/-- If the number of documents is not limited in the end, it never was. -/
theorem unbounded_after (environment : Environment) (files : FileTree)
    (before later : List Happening) :
    let start : Session := ⟨.start, files⟩
    (start.after environment (before ++ later)).service.server.effective.maxDocuments = none →
      (start.after environment before).service.server.tagged.cache.capacity = none := by
  intro start hmax
  obtain ⟨hwaiting, htidy⟩ := tidy_after environment files before
  rw [htidy.capacity_eq]
  by_cases hphase : (start.after environment before).service.phase = .waiting
  · rw [(hwaiting hphase).1]
    rfl
  · rw [after_append, effective_after hphase] at hmax
    rw [hmax]
    rfl

/-- If documents are not limited in number, the languages that one of them is taken
for are the same without any reports about others. So are, with a cache of its own,
the reactions about it and what is kept of it. -/
theorem documents_isolated (document : Uri) :
    (∀ environment files hs (keep : Happening → Bool),
      let start : Session := ⟨.start, files⟩
      (start.after environment hs).service.server.effective.maxDocuments = none →
        (∀ h ∈ hs, keep h = false → h.Elsewhere (· = document)) →
        (start.outcomes environment (hs.filter keep)).flatMap (languagesOf document ·.sent) =
          (start.outcomes environment hs).flatMap (languagesOf document ·.sent)) ∧
    ∀ scan (cache : Cache) causes, cache.capacity = none →
      let own := causes.filter (Cause.touches document)
      (Cause.reactions scan cache own).map (·.2.sight document) =
        ((Cause.reactions scan cache causes).filter (·.1.touches document)).map
          (·.2.sight document) ∧
      (Cause.after scan cache own).kept? document =
        (Cause.after scan cache causes).kept? document := by
  constructor
  · intro environment files hs keep start hmax helse
    have hunbounded (before later : List Happening) (heq : hs = before ++ later) :
        (start.after environment before).service.server.tagged.cache.capacity = none :=
      unbounded_after environment files before later (heq ▸ hmax)
    have hkeep (before : List Happening) (h : Happening) (later : List Happening)
        (heq : hs = before ++ h :: later) (hk : keep h = true) (t t' : Session)
        (ht : t = start.after environment before) (hagrees : t.AgreesAt document t') :
        (t.next environment h).AgreesAt document (t'.next environment h) ∧
          languagesOf document (t'.step environment h).sent =
            languagesOf document (t.step environment h).sent := by
      apply hagrees.step
      rw [ht, ← after_concat]
      exact hunbounded (before ++ [h]) later (by simp [heq])
    have hdrop (before : List Happening) (h : Happening) (later : List Happening)
        (heq : hs = before ++ h :: later) (hk : keep h = false) (t t' : Session)
        (ht : t = start.after environment before) (hagrees : t.AgreesAt document t') :
        (t.next environment h).AgreesAt document t' ∧
          languagesOf document (t.step environment h).sent = [] :=
      hagrees.drop (helse h (by simp [heq]) hk) environment
    obtain ⟨-, hsaid, hsilent⟩ := outcomes_filter (AgreesAt document)
      (fun o => languagesOf document o.sent) (fun o => languagesOf document o.sent = [])
      (agreesAt_refl (hunbounded [] hs rfl) document) hkeep hdrop
    exact flatMap_outcomes_filter hsaid hsilent
  · intro scan cache causes hcache own
    have hrefl := Cache.AgreesAt.refl hcache document
    obtain ⟨hsights, hafter⟩ := hrefl.reactions scan causes
    exact ⟨hsights, hafter.kept?_eq⟩

theorem documents_isolated_one_version :
    let environment : Environment := ⟨none, none, none⟩
    let first := Happening.startup none
    let uri (name : String) : Uri := .atRoot (name ++ ".blade.php")
    let opened (name text : String) := Happening.opened ⟨uri name, "blade", 1, text⟩
    let selected (name : String) := Happening.selected ⟨uri name, ⟨0, 0⟩⟩
    let hs := [first, opened "b" "x", opened "a" "<?php ?>x", selected "b", selected "a",
      opened "a" "x", selected "a"]
    let keep (h : Happening) : Bool := h.report?.bind Notice.about? ≠ some (uri "b")
    let cache := Cache.ofCapacity none
    let a : Document := .ofText (uri "a") 1 "<?php ?>x"
    let b : Document := .ofText (uri "b") 1 "x"
    let causes : List Cause := [.cursor b 0, .cursor a 3, .closing (uri "b"), .cursor b 1]
    let own := causes.filter (Cause.touches (uri "a"))
    (Session.after environment ⟨.start, .empty⟩ hs).service.server.effective.maxDocuments = none ∧
      (∀ h ∈ hs, keep h = false → h.Elsewhere (· = uri "a")) ∧
      hs.map keep = [true, false, true, false, true, true, true] ∧
      (Session.outcomes environment ⟨.start, .empty⟩ (hs.filter keep)).flatMap
        (languagesOf (uri "a") ·.sent) = [⟨uri "a", "php"⟩, ⟨uri "a", "php"⟩] ∧
      cache.capacity = none ∧
      (Cause.after Config.standard.scan cache own).kept? (uri "a") =
        some ⟨uri "a", 1, [⟨0, 8⟩]⟩ := by
  intro environment first uri opened selected hs keep cache a b causes own
  have hmax : (Session.after environment ⟨.start, .empty⟩ hs).service.server.effective.maxDocuments
      = none := by decide +kernel
  have hkeep : hs.map keep = [true, false, true, false, true, true, true] := by decide +kernel
  have hdistinct : uri "b" ≠ uri "a" := by decide +kernel
  have hkept : keep first = true ∧ keep (opened "a" "<?php ?>x") = true ∧
      keep (selected "a") = true ∧ keep (opened "a" "x") = true := by decide +kernel
  have helse : ∀ h ∈ hs, keep h = false → h.Elsewhere (· = uri "a") := by
    simp only [hs, List.forall_mem_cons]
    refine ⟨fun hk => ?_, fun _ => ?_, fun hk => ?_, fun _ => ?_, fun hk => ?_, fun hk => ?_,
      fun hk => ?_, nofun⟩
    · cases hkept.1.symm.trans hk
    · exact Happening.elsewhere_of_about (by decide) (by decide +kernel) hdistinct
    · cases hkept.2.1.symm.trans hk
    · exact Happening.elsewhere_of_about (by decide) (by decide +kernel) hdistinct
    · cases hkept.2.2.1.symm.trans hk
    · cases hkept.2.2.2.symm.trans hk
    · cases hkept.2.2.1.symm.trans hk
  obtain ⟨hsession, hreactions⟩ := documents_isolated (uri "a")
  refine ⟨hmax, helse, hkeep, ?_, rfl, ?_⟩
  · refine (hsession environment .empty hs keep hmax helse).trans ?_
    decide +kernel
  · refine (hreactions Config.standard.scan cache causes rfl).2.trans ?_
    decide +kernel

end Session

end Bilingual
