import Bilingual.Proofs.Reaction.Decision
import Bilingual.Proofs.Server.Tracking
import Bilingual.Proofs.Session.Messages

/-!
Which languages an editor is asked for over a session: those that the text of the
open document calls for, whatever has been kept or evicted on the way.
-/

namespace Bilingual

def Outgoing.language? : Outgoing → Option SetLanguage
  | .setLanguage message => some message
  | _ => none

/-- The messages that ask for a language. -/
def languages (sent : List Outgoing) : List SetLanguage := sent.filterMap Outgoing.language?

def Config.announce (config : Config) (r : Retag) : SetLanguage :=
  ⟨r.document, config.languageId r.tag⟩

/-- The request that a report calls for, from the documents open behind `ns`. -/
def Notice.wanted (config : Config) (ns : List Notice) : Notice → Option Retag
  | .selection m => do
      let d ← openDocument? config m.document ns
      let cursor ← d.content.offset? m.position
      return ⟨m.document, .atCursor (config.scan d.text) cursor⟩
  | .viewport m => do
      let d ← openDocument? config m.document ns
      let visible ← m.visible.mapM d.content.range?
      let cursor := d.content.offset? m.position
      if m.visible = [] then none
      else (viewTag? (config.scan d.text) visible cursor).map (⟨m.document, ·⟩)
  | _ => none

/-- What each step of a run is to ask for, behind the reports `ns`. -/
def wantedFrom (config : Config) : (ns : List Notice) → List Happening → List (List SetLanguage)
  | _, [] => []
  | ns, h :: hs =>
      ((h.report?.bind (Notice.wanted config ns)).map config.announce).toList ::
        wantedFrom config (ns ++ h.report?.toList) hs

variable {config : Config} {ns : List Notice} {s : Server}

theorem mapM_eq_nil_iff {α β : Type} {f : α → Option β} {xs : List α} {ys : List β}
    (h : xs.mapM f = some ys) : ys = [] ↔ xs = [] := by
  cases xs with
  | nil =>
      cases h
      simp
  | cons x xs =>
      simp only [List.mapM_cons, Option.bind_eq_bind, Option.bind_eq_some_iff] at h
      obtain ⟨y, -, zs, -, hys⟩ := h
      cases hys
      simp

theorem languages_announce (s : Server) (rs : List Retag) :
    languages (s.announce rs) = rs.map s.effective.announce := by
  induction rs with
  | nil => rfl
  | cons r rs ih => exact congrArg _ ih

namespace Follows

theorem cursorMoved (h : Follows config ns s) (hd : Disciplined ns) (files : FileTree)
    (m : SelectionChanged) :
    Follows config ns (s.cursorMoved files m).server ∧
      languages (s.cursorMoved files m).sent =
        (((Notice.selection m).wanted config ns).map config.announce).toList := by
  simp only [Server.cursorMoved, Notice.wanted, h.find?_eq]
  cases hopen : openDocument? config m.document ns with
  | none => exact ⟨h, rfl⟩
  | some d =>
      simp only [Option.bind_eq_bind, Option.bind_some]
      cases hcursor : d.content.offset? m.position with
      | none => exact ⟨h, rfl⟩
      | some cursor =>
          obtain ⟨hregions, hcache⟩ := h.lookUp hd hopen
          obtain ⟨hfollows, hsent⟩ := of_react h.effective_eq h.find?_eq h.delimiters_eq files
            (fun scan cache => Reaction.toCursor scan cache d cursor) hcache
          refine ⟨hfollows, ?_⟩
          rw [hsent, languages_announce, h.effective_eq, ← (standing_of_open hopen).2.1]
          simp [Reaction.toCursor, hregions]

theorem viewMoved (h : Follows config ns s) (hd : Disciplined ns) (files : FileTree)
    (m : VisibleRangesChanged) :
    Follows config ns (s.viewMoved files m).server ∧
      languages (s.viewMoved files m).sent =
        (((Notice.viewport m).wanted config ns).map config.announce).toList := by
  simp only [Server.viewMoved, Notice.wanted, h.find?_eq]
  cases hopen : openDocument? config m.document ns with
  | none => exact ⟨h, rfl⟩
  | some d =>
      simp only [Option.bind_eq_bind, Option.bind_some]
      cases hvisible : m.visible.mapM d.content.range? with
      | none => exact ⟨h, rfl⟩
      | some visible =>
          have hempty := mapM_eq_nil_iff hvisible
          obtain ⟨hregions, hcache⟩ := h.lookUp hd hopen
          have hreact := of_react h.effective_eq h.find?_eq h.delimiters_eq files fun scan cache =>
            Reaction.toViewport scan cache d visible (d.content.offset? m.position)
          rcases toViewport_spec config.scan s.tagged.cache d visible
              (d.content.offset? m.position) with ⟨hv, hkept, hnone, -⟩ | ⟨hv, hkept, hsome, -⟩
          · obtain ⟨hfollows, hsent⟩ := hreact (by rw [hkept]; exact h.supported)
            refine ⟨hfollows, ?_⟩
            rw [hsent, hnone, languages_announce]
            simp [hempty.1 hv]
          · obtain ⟨hfollows, hsent⟩ := hreact (by rw [hkept]; exact hcache)
            refine ⟨hfollows, ?_⟩
            rw [hsent, hsome, languages_announce, h.effective_eq, hregions,
              (standing_of_open hopen).2.1]
            have hm : m.visible ≠ [] := fun hm => hv (hempty.2 hm)
            simp only [Option.bind_some, if_neg hm, Option.toList_map]

/-- One report. The discipline is needed for what is kept only. -/
theorem handle (h : Follows config ns s) (hd : Disciplined ns) (files : FileTree) (n : Notice) :
    Follows config (ns ++ [n]) (s.handle files n).server ∧
      languages (s.handle files n).sent = ((n.wanted config ns).map config.announce).toList := by
  cases n with
  | ready => exact ⟨h.pass rfl (by simp), rfl⟩
  | opened d =>
      obtain ⟨hfollows, -⟩ := h.track (n := .opened d) rfl
      simp only [Server.handle]
      split
      · obtain ⟨hagrees, hsent⟩ := (s.track d.uri d.version d.text).1.advise_agrees files
        refine ⟨hfollows.of_agrees hagrees, List.filterMap_eq_nil_iff.2 fun m hm => ?_⟩
        cases m with
        | setLanguage m => exact absurd hm (hsent m)
        | note text => rfl
        | prompt id text titles => rfl
      · exact ⟨hfollows, rfl⟩
  | changed d =>
      cases htexts : d.texts with
      | nil =>
          simp only [Server.handle, htexts]
          exact ⟨h.pass (by simp [Notice.document?, htexts]) (by simp), rfl⟩
      | cons text texts =>
          simp only [Server.handle, htexts]
          exact ⟨(h.track (n := .changed d) (by simp [Notice.document?, htexts])).1, rfl⟩
  | closed uri =>
      obtain ⟨hfollows, hsent⟩ := h.close files uri
      exact ⟨hfollows, by simp only [Server.handle, hsent]; rfl⟩
  | selection m =>
      obtain ⟨hfollows, hsent⟩ := h.cursorMoved hd files m
      exact ⟨hfollows.pass rfl (by simp), hsent⟩
  | viewport m =>
      obtain ⟨hfollows, hsent⟩ := h.viewMoved hd files m
      exact ⟨hfollows.pass rfl (by simp), hsent⟩

end Follows

variable {session : Session}

/-- One step of a session that goes on. -/
theorem Follows.step (h : Follows config ns session.service.server)
    (environment : Environment) (hd : Disciplined ns)
    (hphase : session.service.phase = .active) {happening : Happening}
    (hends : happening.ends = false) :
    Follows config (ns ++ happening.report?.toList)
        (session.next environment happening).service.server ∧
      (session.next environment happening).service.phase = .active ∧
      languages (session.step environment happening).sent =
        ((happening.report?.bind (Notice.wanted config ns)).map config.announce).toList := by
  cases happening with
  | rewritten files =>
      refine ⟨?_, hphase, rfl⟩
      simp only [Happening.report?, Option.toList_none, List.append_nil]
      exact h
  | incoming m =>
      have hstep := Service.step_spec environment session.service session.files m
      simp only [Session.next, Session.step, Happening.report?]
      generalize session.service.step session.files environment m = outcome at hstep ⊢
      cases hstep with
      | rest m response hidle hresponse =>
          refine ⟨?_, hphase, by rw [(hidle hphase).1]; rfl⟩
          rw [(hidle hphase).1, Option.toList_none, List.append_nil]
          exact h
      | startup method id params startup hwaiting =>
          exact absurd (hphase.symm.trans hwaiting) (by decide)
      | shutdown method id hactive hm => simp [Happening.ends, Incoming.ends, hm] at hends
      | halt method id params response hactive hm =>
          simp [Happening.ends, Incoming.ends, hm] at hends
      | exit method id params hgoing hm => simp [Happening.ends, Incoming.ends, hm] at hends
      | report m notice hactive hm =>
          obtain ⟨hfollows, hsent⟩ := h.handle hd session.files notice
          rw [hm]
          exact ⟨hfollows, rfl, hsent⟩
      | reply id answer hgoing =>
          obtain ⟨hagrees, hsent⟩ := session.service.server.answered_agrees session.files id answer
          refine ⟨?_, hphase, by simp only [Service.serve, hsent]; rfl⟩
          simp only [Incoming.report?, Option.toList_none, List.append_nil]
          exact h.of_agrees hagrees

theorem Follows.run {hs : List Happening} (h : Follows config ns session.service.server)
    (environment : Environment) (hphase : session.service.phase = .active)
    (hends : ∀ happening ∈ hs, happening.ends = false)
    (hd : Disciplined (ns ++ reports hs)) :
    (session.outcomes environment hs).map (languages ·.sent) = wantedFrom config ns hs := by
  induction hs generalizing session ns with
  | nil => rfl
  | cons happening hs ih =>
      obtain ⟨hfollows, hactive, hsent⟩ :=
        h.step environment hd.before hphase (hends happening List.mem_cons_self)
      have hrest : Disciplined (ns ++ happening.report?.toList ++ reports hs) := by
        rwa [List.append_assoc, ← reports_cons]
      have hlater := ih hfollows hactive
        (fun later hmem => hends later (List.mem_cons_of_mem _ hmem)) hrest
      exact congrArg₂ List.cons hsent hlater

theorem follows_begun (environment : Environment) (config : Option Config) :
    Follows (config.getD .standard) [] (Service.begun environment config).server where
  effective_eq := rfl
  find?_eq uri := by
    unfold openDocument?
    split <;> rfl
  delimiters_eq := rfl
  supported e he := absurd he List.not_mem_nil

/-- A session is begun under some settings. Under any settings, each message up to
the last request asks for exactly the languages that are wanted. -/
theorem session_retags_exactly (environment : Environment) :
    (∀ files early id params,
      let waiting := Session.after environment ⟨.start, files⟩ early
      let first := Happening.incoming (.message "initialize" id params)
      (waiting.step environment first).response.isResult = true →
        ∃ config, (waiting.next environment first).service = .begun environment config) ∧
    (∀ config files hs, (∀ h ∈ hs, h.ends = false) → Disciplined (reports hs) →
      (Session.outcomes environment ⟨.begun environment config, files⟩ hs).map (languages ·.sent) =
        wantedFrom (config.getD .standard) [] hs) ∧
    ∀ regions visible, (View.ofRanges regions visible).hasBoth = false →
      ∀ cursor other, Tag.inView regions visible cursor = Tag.inView regions visible other := by
  refine ⟨fun files early id params hresult => ?_, fun config files hs hends hd => ?_,
    fun regions visible => inView_of_not_hasBoth⟩
  · exact Session.begun_of_result (Session.waiting_after (fun _ => rfl) early) rfl hresult
  · exact (follows_begun environment config).run environment rfl hends hd

/-- One place in the cache for two documents. A viewport that shows a block alone is not
told from the cursor, and one that shows more is. -/
theorem session_retags_exactly_two_documents :
    let environment : Environment := ⟨none, none, none⟩
    let first := Happening.startup none
    let a := Uri.atRoot "a.blade.php"
    let b := Uri.atRoot "b.blade.php"
    let opened (uri : Uri) (text : String) := Happening.opened ⟨uri, "blade", 1, text⟩
    let selected (uri : Uri) (character : UInt32) := Happening.selected ⟨uri, ⟨0, character⟩⟩
    let viewed (uri : Uri) (stop character : UInt32) :=
      Happening.viewed ⟨uri, [⟨⟨0, 0⟩, ⟨0, stop⟩⟩], ⟨0, character⟩⟩
    let config : Config := { Config.standard with maxDocuments := some 1 }
    let hs := [opened a "<?php ?>x", opened b "x", selected a 3, selected b 0, viewed a 8 9,
      viewed a 9 9, selected a 9]
    (Session.step environment ⟨.start, .empty⟩ first).response.isResult = true ∧
      (∃ config, (Session.next environment ⟨.start, .empty⟩ first).service =
        .begun environment config) ∧
      (∀ h ∈ hs, h.ends = false) ∧ Disciplined (reports hs) ∧
      (Session.outcomes environment ⟨.begun environment (some config), .empty⟩ hs).map
          (languages ·.sent) =
        [[], [], [⟨a, "php"⟩], [⟨b, "blade"⟩], [⟨a, "php"⟩], [⟨a, "blade"⟩], [⟨a, "blade"⟩]] := by
  intro environment first a b opened selected viewed config hs
  obtain ⟨hbegun, hrun, -⟩ := session_retags_exactly environment
  have hresult : (Session.step environment ⟨.start, .empty⟩ first).response.isResult = true := by
    decide +kernel
  have hends : ∀ h ∈ hs, h.ends = false := by decide +kernel
  have hreports : reports hs =
      [.opened ⟨a, "blade", 1, "<?php ?>x"⟩, .opened ⟨b, "blade", 1, "x"⟩,
        .selection ⟨a, ⟨0, 3⟩⟩, .selection ⟨b, ⟨0, 0⟩⟩,
        .viewport ⟨a, [⟨⟨0, 0⟩, ⟨0, 8⟩⟩], ⟨0, 9⟩⟩, .viewport ⟨a, [⟨⟨0, 0⟩, ⟨0, 9⟩⟩], ⟨0, 9⟩⟩,
        .selection ⟨a, ⟨0, 9⟩⟩] := by
    decide +kernel
  have hd : Disciplined (reports hs) := by
    refine disciplined_of_texts (fun u _ => if u = a then "<?php ?>x" else "x") ?_
    rw [hreports]
    decide +kernel
  refine ⟨hresult, hbegun .empty [] _ _ hresult, hends, hd, ?_⟩
  rw [hrun (some config) .empty hs hends hd]
  decide +kernel

end Bilingual
