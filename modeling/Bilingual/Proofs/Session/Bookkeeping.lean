import Bilingual.Proofs.FileTree.Writing
import Bilingual.Proofs.Server.Bookkeeping
import Bilingual.Proofs.Session.Messages
import Bilingual.Proofs.Session.Turn

/-!
The documents and the regions of a server in every state that a session can get to,
from any files and under any settings.
-/

namespace Bilingual.Session

/-- The report that a step handles: reports count while the session is active. -/
def heard? (s : Session) (h : Happening) : Option Notice :=
  if s.service.phase = .active then h.report? else none

/-- The reports that are handled in a run. -/
def handled (environment : Environment) : Session → List Happening → List Notice
  | _, [] => []
  | s, h :: hs => (s.heard? h).toList ++ handled environment (s.next environment h) hs

/-- The last request has been served. -/
structure Ended (s : Session) : Prop where
  phase : s.service.phase = .stopped ∨ s.service.phase = .exited
  emptied : s.service.server.tagged.cache.entries = []

variable {environment : Environment} {s : Session} {ns : List Notice}

theorem handled_concat (environment : Environment) (s : Session) (hs : List Happening)
    (h : Happening) :
    handled environment s (hs ++ [h]) =
      handled environment s hs ++ ((after environment s hs).heard? h).toList := by
  induction hs generalizing s with
  | nil => exact List.append_nil _
  | cons g hs ih => simp only [List.cons_append, handled, after, ih, List.append_assoc]

theorem heard?_eq_none {h : Happening} (hn : s.service.phase = .active → h.report? = none) :
    s.heard? h = none := by
  unfold heard?
  split
  · next hphase => exact hn hphase
  · rfl

/-- Before the first request has been served there is nothing to keep in step. -/
theorem tidy_next (hwaiting : s.service.phase = .waiting → s.service = .start ∧ ns = [])
    (hs : s.service.server.Tidy ns) (environment : Environment) (h : Happening) :
    (s.next environment h).service.server.Tidy (ns ++ (s.heard? h).toList) := by
  have hunheard {server : Server} (htidy : server.Tidy ns)
      (hn : s.service.phase = .active → h.report? = none) :
      server.Tidy (ns ++ (s.heard? h).toList) := by
    rw [heard?_eq_none hn]
    simpa using htidy
  cases h with
  | rewritten files => exact hunheard hs fun _ => rfl
  | incoming m =>
      have hstep := Service.step_spec environment s.service s.files m
      simp only [next, step]
      generalize s.service.step s.files environment m = o at hstep ⊢
      cases hstep with
      | rest m response hidle => exact hunheard hs fun hphase => (hidle hphase).1
      | startup method id params startup hphase =>
          refine hunheard ?_ fun _ => rfl
          obtain ⟨hstart, rfl⟩ := hwaiting hphase
          rw [hstart]
          exact .begin s.files environment startup
      | shutdown method id hphase => exact hunheard (hs.finish s.files).1 fun _ => rfl
      | halt method id params response hphase hmethod =>
          exact hunheard hs fun _ => report?_of_shutdown id params (Or.inl hmethod)
      | exit method id params hgoing hmethod =>
          exact hunheard hs fun _ => report?_of_shutdown id params (Or.inr hmethod)
      | report m notice hphase hnotice =>
          have hheard : s.heard? (.incoming m) = some notice := (if_pos hphase).trans hnotice
          rw [hheard]
          exact hs.change (s.service.server.handle_change s.files notice)
      | reply id answer hgoing =>
          exact hunheard (hs.of_agrees (s.service.server.answered_agrees s.files id answer).1)
            fun _ => rfl

theorem waiting_of_next (h : Happening)
    (hnext : (s.next environment h).service.phase = .waiting) : s.service.phase = .waiting := by
  cases h with
  | rewritten files => exact hnext
  | incoming m =>
      have hstep := Service.step_spec environment s.service s.files m
      simp only [next, step] at hnext
      generalize s.service.step s.files environment m = o at hstep hnext
      cases hstep with
      | rest m response => exact hnext
      | startup method id params startup => cases hnext
      | shutdown method id => cases hnext
      | halt method id params response => cases hnext
      | exit method id params => cases hnext
      | report m notice => cases hnext
      | reply id answer => exact hnext

theorem tidy_after (environment : Environment) (files : FileTree) (hs : List Happening) :
    let start : Session := ⟨.start, files⟩
    let s := start.after environment hs
    (s.service.phase = .waiting → s.service = .start ∧ start.handled environment hs = []) ∧
      s.service.server.Tidy (start.handled environment hs) := by
  intro start
  induction hs using List.reverseRecOn with
  | nil => exact ⟨fun _ => ⟨rfl, rfl⟩, .of_fresh rfl rfl⟩
  | append_singleton hs h ih =>
      obtain ⟨hwaiting, htidy⟩ := ih
      rw [after_concat, handled_concat]
      refine ⟨fun hnext => ?_, tidy_next hwaiting htidy environment h⟩
      have hphase := waiting_of_next h hnext
      have hunheard : (after environment start hs).heard? h = none :=
        heard?_eq_none fun hactive => by cases hphase.symm.trans hactive
      refine ⟨waiting_next (fun hw => (hwaiting hw).1) h hnext, ?_⟩
      rw [hunheard, (hwaiting hphase).2]
      rfl

theorem Ended.next (hs : s.Ended) (environment : Environment) (h : Happening) :
    (s.next environment h).Ended := by
  have hidle : s.service.phase ≠ .waiting ∧ s.service.phase ≠ .active := by
    rcases hs.phase with heq | heq <;> rw [heq] <;> decide
  cases h with
  | rewritten files => exact ⟨hs.phase, hs.emptied⟩
  | incoming m =>
      have hstep := Service.step_spec environment s.service s.files m
      simp only [Session.next, Session.step]
      generalize s.service.step s.files environment m = o at hstep ⊢
      cases hstep with
      | rest m response => exact ⟨hs.phase, hs.emptied⟩
      | startup method id params startup hphase => exact absurd hphase hidle.1
      | shutdown method id hphase => exact absurd hphase hidle.2
      | halt method id params response hphase => exact absurd hphase hidle.2
      | exit method id params => exact ⟨Or.inr rfl, hs.emptied⟩
      | report m notice hphase => exact absurd hphase hidle.2
      | reply id answer =>
          have hagrees := (s.service.server.answered_agrees s.files id answer).1
          exact ⟨hs.phase, (congrArg (·.cache.entries) hagrees.tagged_eq).trans hs.emptied⟩

theorem Ended.after (hs : s.Ended) (environment : Environment) (later : List Happening) :
    (s.after environment later).Ended := by
  induction later generalizing s with
  | nil => exact hs
  | cons h later ih => exact ih (hs.next environment h)

/-- A last request that is served ends the session. -/
theorem ended_of_result (hs : s.service.server.Tidy ns) {id : Option Rpc.Id} {params : Option Json}
    {method : String} (hm : Method.ofName? method = some .shutdown)
    (hresult :
      (s.step environment (.incoming (.message method id params))).response.isResult = true) :
    (s.next environment (.incoming (.message method id params))).Ended := by
  have hstep := Service.step_spec environment s.service s.files (.message method id params)
  generalize hmessage : Incoming.message method id params = m at hstep hresult
  simp only [next, step] at hresult ⊢
  generalize s.service.step s.files environment m = o at hstep hresult ⊢
  cases hstep with
  | rest m response hidle hresponse => cases hresult.symm.trans hresponse
  | startup other id params startup hphase hother =>
      cases hmessage
      cases hm.symm.trans hother
  | shutdown other id => exact ⟨Or.inl rfl, (hs.finish s.files).2⟩
  | halt other id params response hphase hother hresponse => cases hresult.symm.trans hresponse
  | exit other id params => cases hresult
  | report m notice => cases hresult
  | reply id answer => cases hresult

/-- In every state of every session, the documents are those which a latest report
tells to be open; regions are kept of these only, and of no more than are configured.
A document that has just been closed is in neither table, and behind the last request
no regions are kept. -/
theorem tables_follow_reports (environment : Environment) (files : FileTree)
    (hs : List Happening) :
    let start : Session := ⟨.start, files⟩
    let s := start.after environment hs
    let server := s.service.server
    ((∀ d, d ∈ server.documents.documents ↔
        server.effective.covers d.uri ∧ Current (start.handled environment hs) d) ∧
      (server.documents.documents.map Document.uri).Nodup) ∧
    (∀ e ∈ server.tagged.cache.entries, ∃ d ∈ server.documents.documents, d.uri = e.document) ∧
    (∀ c, server.effective.maxDocuments = some c → server.tagged.cache.size ≤ max c 1) ∧
    (∀ h uri, s.heard? h = some (.closed uri) →
      let next := (s.next environment h).service.server
      next.documents.find? uri = none ∧ next.tagged.cache.find? uri = none) ∧
    ∀ id params later,
      let last := Happening.incoming (.message "shutdown" id params)
      (s.step environment last).response.isResult = true →
        ((s.next environment last).after environment later).service.server.tagged.cache.entries =
          [] := by
  intro start s server
  obtain ⟨hwaiting, htidy⟩ := tidy_after environment files hs
  refine ⟨⟨fun d => ?_, htidy.distinct⟩, fun e he => ?_, fun c hc => ?_, ?_, ?_⟩
  · rw [OpenDocuments.mem_iff_find? htidy.distinct, htidy.find?_eq, openDocument?_eq_some_iff,
      and_iff_right rfl]
  · obtain ⟨d, hd⟩ := Option.ne_none_iff_exists'.1 (htidy.tracked e he)
    exact ⟨d, List.mem_of_find?_eq_some hd, by simpa using List.find?_some hd⟩
  · exact (htidy.fits.size_le _ (htidy.capacity_eq.trans (congrArg _ hc))).2
  · intro h uri hheard next
    have hnext : next.Tidy (start.handled environment hs ++ [.closed uri]) := by
      have htidy' := tidy_next hwaiting htidy environment h
      rwa [hheard] at htidy'
    -- The documents settle what may be kept, so the regions need no argument of their own.
    have hclosed : next.documents.find? uri = none := by
      rw [hnext.find?_eq, openDocument?_of_closed, if_pos rfl]
    refine ⟨hclosed, Cache.find?_eq_none_iff.2 fun e he huri => ?_⟩
    exact hnext.tracked e he (huri ▸ hclosed)
  · intro id params later last hresult
    exact ((ended_of_result htidy rfl hresult).after environment later).emptied

/-- Settings that are found right where the workspace is. -/
theorem discover_one_place :
    let settings : Settings := ⟨none, none, none, none, none, some 1, none⟩
    let text := "[retag]\nmax_documents = 1\n"
    let files := FileTree.put .empty [Settings.fileName.bytes] (.file text.toUTF8)
    (Settings.discover files (.ofText "/")).settings = some settings := by
  intro settings text files
  have hpath : (Path.ofText "/").join Settings.fileName = .ofText "/retagls.toml" := by
    decide +kernel
  have hresolve : FileTree.resolve .empty (.ofText "/retagls.toml") =
      .ok [Settings.fileName.bytes] := by
    have hnames : (Path.ofText "/retagls.toml").names = [[], Settings.fileName.bytes] := by
      decide +kernel
    have hplain : FileTree.Plain Settings.fileName.bytes :=
      ⟨by decide +kernel, by decide +kernel, by decide +kernel⟩
    rw [FileTree.resolve_eq_ok_iff, hnames]
    exact ⟨by decide +kernel, .idle rfl rfl (.new rfl hplain rfl)⟩
  have hwrite : FileTree.write .empty (.ofText "/retagls.toml") text.toUTF8 = .ok files := by
    simp only [FileTree.write, hresolve]
    rfl
  have hdirectory : Settings.directory? files (.ofText "/") = some (.ofText "/") := by
    simp [Settings.directory?, Settings.hasFile, hpath, FileTree.isFile, FileTree.find_write hwrite]
  have hparse : Settings.parse? text = some (some settings) := by decide +kernel
  have hload : Settings.load files (.ofText "/retagls.toml") = (some settings, []) := by
    simp only [Settings.load, FileTree.readText_write hwrite, hparse]
  simp only [Settings.discover, hdirectory, Settings.loadFrom, hpath, hload]

theorem tables_follow_reports_one_place :
    let environment : Environment := ⟨none, none, none⟩
    let files := FileTree.put .empty [Settings.fileName.bytes]
      (.file "[retag]\nmax_documents = 1\n".toUTF8)
    let first := Happening.startup (some "file:///")
    let uri (name : String) : Uri := .atRoot (name ++ ".blade.php")
    let opened (name : String) := Happening.opened ⟨uri name, "blade", 1, "<?php ?>x"⟩
    let selected (name : String) := Happening.selected ⟨uri name, ⟨0, 3⟩⟩
    let closed (name : String) := Happening.closed (uri name)
    let last := Happening.incoming (.message "shutdown" (some (.number 2)) none)
    let hs := [first, opened "a", opened "b", selected "a", selected "b"]
    let s := Session.after environment ⟨.start, files⟩ hs
    let server := s.service.server
    server.documents.documents.map Document.uri = [uri "b", uri "a"] ∧
      server.tagged.cache.documents = [uri "b"] ∧
      server.effective.maxDocuments = some 1 ∧ server.tagged.cache.size ≤ 1 ∧
      s.heard? (closed "b") = some (.closed (uri "b")) ∧
      (s.next environment (closed "b")).service.server.documents.find? (uri "b") = none ∧
      (s.next environment (closed "b")).service.server.tagged.cache.find? (uri "b") = none ∧
      (s.step environment last).response.isResult = true ∧
      ((s.next environment last).after environment [closed "a"]).service.server.tagged.cache.entries
        = [] := by
  intro environment files first uri opened selected closed last hs s server
  let config : Config := { Config.standard with maxDocuments := some 1 }
  have hfirst : Session.next environment ⟨.start, files⟩ first =
      ⟨.begun environment (some config), files⟩ := by
    let startup : Startup := ⟨some ⟨"file", some ⟨"", "", none⟩, "/", none, none⟩, none⟩
    have hbegin : (Server.begin .start files environment startup).server =
        (Service.begun environment (some config)).server := by
      have hdirectory : startup.directory? = some (.ofText "/") := by decide +kernel
      simp only [Server.begin, hdirectory, discover_one_place, files]
      rfl
    obtain ⟨-, -, -, hfiles, -⟩ := Server.begin_spec .start files environment startup
    have hstep : Session.next environment ⟨.start, files⟩ first =
        ⟨⟨.active, (Server.begin .start files environment startup).server⟩,
          (Server.begin .start files environment startup).files⟩ := rfl
    rw [hstep, hbegin, hfiles]
    rfl
  have hbegun : s = Session.after environment ⟨.begun environment (some config), files⟩ hs.tail :=
    (after_cons environment ⟨.start, files⟩ first hs.tail).trans (by rw [hfirst])
  have hafter : Session.after environment ⟨.start, files⟩ hs = s := rfl
  have hmessage : .incoming (.message "shutdown" (some (.number 2)) none) = last := rfl
  obtain ⟨-, -, hsize, hclosed, hlast⟩ := tables_follow_reports environment files hs
  rw [hafter] at hsize hclosed hlast
  have hend := hlast (some (.number 2)) none [closed "a"]
  rw [hmessage] at hend
  have hmax : server.effective.maxDocuments = some 1 := by
    simp only [server, hbegun]
    decide +kernel
  have hheard : s.heard? (closed "b") = some (.closed (uri "b")) := by
    rw [hbegun]
    decide +kernel
  have hresult : (s.step environment last).response.isResult = true := by
    rw [hbegun]
    decide +kernel
  obtain ⟨hdocument, hentry⟩ := hclosed (closed "b") (uri "b") hheard
  refine ⟨?_, ?_, hmax, hsize 1 hmax, hheard, hdocument, hentry, hresult,
    hend hresult⟩
  · simp only [server, hbegun]
    decide +kernel
  · simp only [server, hbegun]
    decide +kernel

end Bilingual.Session
