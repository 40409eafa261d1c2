import Bilingual.Proofs.Server.Files
import Bilingual.Proofs.Server.Freezing
import Bilingual.Proofs.Session.Course
import Bilingual.Proofs.Session.Messages

/-!
The settings of a session are those that the first request finds. They stay in force,
and from then on the files are of no account, but for the preferences.
-/

namespace Bilingual

namespace Session

/-- What the editor is answered and told, message by message. -/
def exchanged (environment : Environment) : Session → List Happening →
    List (Response × List Outgoing)
  | _, [] => []
  | s, .incoming m :: hs =>
      let o := s.step environment (.incoming m)
      (o.response, o.sent) :: exchanged environment (s.next environment (.incoming m)) hs
  | s, .rewritten files :: hs => exchanged environment ⟨s.service, files⟩ hs

/-- Two runs with the same messages. Files may change in either of them, as long as the
preferences stay as they are, and in both of them, if the preferences are the same then. -/
inductive Parallel (environment : Environment) :
    Session → Session → List Happening → List Happening → Prop
  | nil (s s' : Session) : Parallel environment s s' [] []
  | message {s s' : Session} {hs hs' : List Happening} (m : Incoming) :
      Parallel environment (s.next environment (.incoming m)) (s'.next environment (.incoming m))
        hs hs' →
      Parallel environment s s' (.incoming m :: hs) (.incoming m :: hs')
  | left {s s' : Session} {hs hs' : List Happening} (files : FileTree) :
      Preferences.SameIn (Preferences.path? environment) s.files files →
      Parallel environment ⟨s.service, files⟩ s' hs hs' →
      Parallel environment s s' (.rewritten files :: hs) hs'
  | right {s s' : Session} {hs hs' : List Happening} (files : FileTree) :
      Preferences.SameIn (Preferences.path? environment) s'.files files →
      Parallel environment s ⟨s'.service, files⟩ hs hs' →
      Parallel environment s s' hs (.rewritten files :: hs')
  | both {s s' : Session} {hs hs' : List Happening} (files files' : FileTree) :
      Preferences.SameIn (Preferences.path? environment) files files' →
      Parallel environment ⟨s.service, files⟩ ⟨s'.service, files'⟩ hs hs' →
      Parallel environment s s' (.rewritten files :: hs) (.rewritten files' :: hs')

/-- Two sessions that differ in their files only. Until the advisory has been brought up
they hold the same preferences. -/
structure Twins (environment : Environment) (s s' : Session) : Prop where
  service_eq : s'.service = s.service
  begun : s.service.phase ≠ .waiting
  preferences_eq : s.service.server.preferences = Preferences.path? environment
  unshown : s.service.server.advisoryShown = false → s.service.server.questions = [] ∧
    Preferences.SameIn (Preferences.path? environment) s.files s'.files

variable {environment : Environment} {s s' : Session} {hs hs' : List Happening}

/-- Nothing about the advisory is new, or it has been brought up. -/
theorem Twins.keep (h : s.Twins environment s') {o o' : Outcome}
    (hservice : o'.service = o.service) (hphase : o.service.phase ≠ .waiting)
    (hpreferences : o.service.server.preferences = s.service.server.preferences)
    (hunshown : o.service.server.advisoryShown = false →
      s.service.server.advisoryShown = false ∧
        o.service.server.questions = s.service.server.questions ∧
        o.files = s.files ∧ o'.files = s'.files) :
    Twins environment ⟨o.service, o.files⟩ ⟨o'.service, o'.files⟩ where
  service_eq := hservice
  begun := hphase
  preferences_eq := hpreferences.trans h.preferences_eq
  unshown hfalse := by
    obtain ⟨hshown, hquestions, hfiles, hfiles'⟩ := hunshown hfalse
    obtain ⟨hnone, hsame⟩ := h.unshown hshown
    refine ⟨hquestions.trans hnone, ?_⟩
    rwa [hfiles, hfiles']

theorem Twins.report (h : s.Twins environment s') (n : Notice) :
    let o := Service.serve .active .silent (s.service.server.handle s.files n)
    let o' := Service.serve .active .silent (s.service.server.handle s'.files n)
    Twins environment ⟨o.service, o.files⟩ ⟨o'.service, o'.files⟩ ∧ o'.sent = o.sent := by
  intro o o'
  have hfiles : s.service.server.advisoryShown = false →
      Preferences.SameIn s.service.server.preferences s.files s'.files := by
    rw [h.preferences_eq]
    exact fun hshown => (h.unshown hshown).2
  obtain ⟨hserver, hsent⟩ := Server.handle_files hfiles n
  obtain ⟨hkept, hpreferences, hadvisory⟩ := s.service.server.handle_advisory s.files n
  obtain ⟨hkept', -, -⟩ := s.service.server.handle_advisory s'.files n
  refine ⟨h.keep (congrArg (Service.mk .active) hserver) nofun hpreferences fun hfalse => ?_, hsent⟩
  obtain hsame | hshown := hadvisory
  · exact ⟨hsame.shown_eq.symm.trans hfalse, hsame.questions_eq, hkept, hkept'⟩
  · cases hshown.symm.trans hfalse

/-- An answer finds its question only where the advisory has been brought up. -/
theorem Twins.reply (h : s.Twins environment s') (id : Rpc.Id)
    (answer : Except Rpc.Error Json) :
    let o := Service.serve s.service.phase .silent (s.service.server.answered s.files id answer)
    let o' := Service.serve s.service.phase .silent (s.service.server.answered s'.files id answer)
    Twins environment ⟨o.service, o.files⟩ ⟨o'.service, o'.files⟩ ∧ o'.sent = o.sent := by
  intro o o'
  have hserver := s.service.server.answered_files s.files s'.files id answer
  have hservice : o'.service = o.service := congrArg (Service.mk s.service.phase) hserver
  obtain ⟨hnone, hpassed⟩ | ⟨q, hq, -, hfound⟩ :=
    s.service.server.answered_cases s.files id answer
  · obtain ⟨-, hpassed'⟩ | ⟨q, hq, heq, -⟩ :=
      s.service.server.answered_cases s'.files id answer
    · refine ⟨h.keep hservice h.begun ?_ fun hfalse => ?_, ?_⟩
      · simp only [o, Service.serve, hpassed]
      · simp only [o, o', Service.serve, hpassed, hpassed'] at hfalse ⊢
        exact ⟨hfalse, trivial, trivial, trivial⟩
      · simp only [o, o', Service.serve, hpassed, hpassed']
    · exact absurd heq (hnone q hq)
  · have hsent := (s.service.server.answered_agrees s.files id answer).2
    have hsent' := (s.service.server.answered_agrees s'.files id answer).2
    refine ⟨h.keep hservice h.begun ?_ fun hfalse => ?_, hsent'.trans hsent.symm⟩
    · simp only [o, Service.serve, hfound]
    · simp only [o, Service.serve, hfound] at hfalse
      rw [(h.unshown hfalse).1] at hq
      cases hq

theorem Twins.step (h : s.Twins environment s') (m : Incoming) :
    (s.next environment (.incoming m)).Twins environment (s'.next environment (.incoming m)) ∧
      (s'.step environment (.incoming m)).response =
        (s.step environment (.incoming m)).response ∧
      (s'.step environment (.incoming m)).sent = (s.step environment (.incoming m)).sent := by
  obtain ⟨c, hplace, hc⟩ := Course.exists_leads s.service.phase m
  simp only [next, Session.step]
  rw [h.service_eq, hc environment s.files s.service rfl, hc environment s'.files s.service rfl]
  cases c with
  | rest phase response =>
      refine ⟨h.keep rfl (fun hw => h.begun (hplace hw)) rfl fun hfalse => ?_, rfl, rfl⟩
      exact ⟨hfalse, rfl, rfl, rfl⟩
  | startup id request => exact absurd hplace h.begun
  | shutdown id =>
      have hsame := (s.service.server.quiet_finish s.files).same
      refine ⟨h.keep rfl (fun hwaiting => ?_) hsame.preferences_eq fun hfalse => ?_, rfl, rfl⟩
      · cases hwaiting
      · exact ⟨hsame.shown_eq.symm.trans hfalse, hsame.questions_eq, rfl, rfl⟩
  | report n =>
      obtain ⟨htwins, hsent⟩ := h.report n
      exact ⟨htwins, rfl, hsent⟩
  | reply id answer =>
      obtain ⟨htwins, hsent⟩ := h.reply id answer
      exact ⟨htwins, rfl, hsent⟩

/-- Other files, as long as they are the same to the preferences. -/
theorem Twins.rewritten (h : s.Twins environment s') {files files' : FileTree}
    (hfiles : Preferences.SameIn (Preferences.path? environment) s.files s'.files →
      Preferences.SameIn (Preferences.path? environment) files files') :
    Twins environment ⟨s.service, files⟩ ⟨s'.service, files'⟩ where
  service_eq := h.service_eq
  begun := h.begun
  preferences_eq := h.preferences_eq
  unshown hshown := ⟨(h.unshown hshown).1, hfiles (h.unshown hshown).2⟩

theorem Twins.exchanged (h : s.Twins environment s') (hp : Parallel environment s s' hs hs') :
    s'.exchanged environment hs' = s.exchanged environment hs := by
  induction hp with
  | nil s s' => rfl
  | message m hp ih =>
      obtain ⟨htwins, hresponse, hsent⟩ := h.step m
      simp only [Session.exchanged, hresponse, hsent, ih htwins]
  | left files hsame hp ih => exact ih (h.rewritten hsame.symm.trans)
  | right files hsame hp ih => exact ih (h.rewritten fun h => h.trans hsame)
  | both files files' hsame hp ih => exact ih (h.rewritten fun _ => hsame)

theorem twins_begun (environment : Environment) (config : Option Config) (files : FileTree) :
    Twins environment ⟨.begun environment config, files⟩ ⟨.begun environment config, files⟩ where
  service_eq := rfl
  begun := nofun
  preferences_eq := rfl
  unshown _ := ⟨rfl, Preferences.sameIn_refl _ _⟩

/-- All that a session says, it says under the settings in force. -/
theorem under_step (hphase : s.service.phase ≠ .waiting)
    (hcovers : ∀ uri d, s.service.server.documents.find? uri = some d →
      s.service.server.effective.covers uri = true) (environment : Environment) (h : Happening) :
    ∀ m ∈ (s.step environment h).sent, m.Under s.service.server.effective := by
  cases h with
  | rewritten files => exact List.forall_mem_nil _
  | incoming m =>
      have hstep := Service.step_spec environment s.service s.files m
      simp only [step]
      generalize s.service.step s.files environment m = o at hstep ⊢
      cases hstep with
      | rest m response => exact List.forall_mem_nil _
      | startup method id params startup hwaiting => exact absurd hwaiting hphase
      | shutdown method id => exact List.forall_mem_nil _
      | halt method id params response => exact List.forall_mem_nil _
      | exit method id params => exact List.forall_mem_nil _
      | report m notice => exact Server.under_handle hcovers s.files notice
      | reply id answer =>
          have hsent := (s.service.server.answered_agrees s.files id answer).2
          simp only [Service.serve, hsent]
          exact List.forall_mem_nil _

/-- A first request that is served fixes the settings which are found there and then. -/
theorem begun_of_startup (hwaiting : s.service.phase = .waiting → s.service = .start)
    {method : String} (hm : Method.ofName? method = some .startup) {id : Option Rpc.Id}
    {params : Option Json}
    (hresult :
      (s.step environment (.incoming (.message method id params))).response.isResult = true) :
    ∃ startup config, params.bind Startup.ofJson? = some startup ∧
      config.getD .standard = startup.directory?.elim .standard (fun directory =>
        .ofSettings (Settings.discover s.files directory).settings) ∧
      s.next environment (.incoming (.message method id params)) =
        ⟨.begun environment config, s.files⟩ := by
  generalize hmessage : Incoming.message method id params = m at hresult ⊢
  have hstep := Service.step_spec environment s.service s.files m
  simp only [next, step] at hresult ⊢
  generalize s.service.step s.files environment m = o at hstep hresult ⊢
  cases hstep with
  | rest m response hidle hresponse => cases hresult.symm.trans hresponse
  | startup other id params startup hphase hother hstartup =>
      cases hmessage
      rw [hwaiting hphase]
      cases hdirectory : startup.directory? with
      | none =>
          refine ⟨startup, none, hstartup, by rw [hdirectory]; rfl, ?_⟩
          simp only [Service.serve, Server.begin, Service.start, hdirectory]
          rfl
      | some directory =>
          refine ⟨startup, some (.ofSettings (Settings.discover s.files directory).settings),
            hstartup, by rw [hdirectory]; rfl, ?_⟩
          simp only [Service.serve, Server.begin, Service.start, hdirectory]
          rfl
  | shutdown other id hphase hother =>
      cases hmessage
      cases hm.symm.trans hother
  | halt other id params response hphase hother hresponse => cases hresult.symm.trans hresponse
  | exit other id params => cases hresult
  | report m notice => cases hresult
  | reply id answer => cases hresult

theorem waiting_of_after (hs : List Happening)
    (hwaiting : (s.after environment hs).service.phase = .waiting) :
    s.service.phase = .waiting := by
  induction hs generalizing s with
  | nil => exact hwaiting
  | cons h hs ih => exact waiting_of_next h (ih hwaiting)

theorem tidy_begun (environment : Environment) (config : Option Config) (files : FileTree)
    (hs : List Happening) :
    let begun : Session := ⟨.begun environment config, files⟩
    (begun.after environment hs).service.server.Tidy (begun.handled environment hs) := by
  intro begun
  induction hs using List.reverseRecOn with
  | nil => exact .of_fresh rfl rfl
  | append_singleton hs h ih =>
      rw [after_concat, handled_concat]
      refine tidy_next (fun hwaiting => ?_) ih environment h
      cases waiting_of_after hs hwaiting

/-- The settings of a session that has begun are in force ever after. -/
theorem frozen_begun (environment : Environment) (found : Option Config) (files : FileTree)
    (later : List Happening) :
    let config := found.getD .standard
    let begun : Session := ⟨.begun environment found, files⟩
    let s := begun.after environment later
    let server := s.service.server
    server.effective = config ∧
      (∀ uri, server.documents.find? uri =
        openDocument? config uri (begun.handled environment later)) ∧
      server.tagged.delimiters = config.usableDelimiters.1 ∧
      server.tagged.cache.capacity = config.maxDocuments.map (max · 1) ∧
      ∀ h, ∀ m ∈ (s.step environment h).sent, m.Under config := by
  intro config begun s server
  have hbegun : begun.service.phase ≠ .waiting := nofun
  have hphase : s.service.phase ≠ .waiting :=
    fun hwaiting => hbegun (waiting_of_after later hwaiting)
  have heffective : server.effective = config := effective_after hbegun environment later
  have htidy := tidy_begun environment found files later
  have hfind (uri : Uri) : server.documents.find? uri =
      openDocument? config uri (begun.handled environment later) := by
    rw [← heffective]
    exact htidy.find?_eq uri
  have hdelimiters : server.tagged.delimiters = config.usableDelimiters.1 :=
    lasting_after Server.lasting_delimiters hbegun environment later
  refine ⟨heffective, hfind, hdelimiters, ?_, fun h => ?_⟩
  · rw [← heffective]
    exact htidy.capacity_eq
  · rw [← heffective]
    refine under_step hphase (fun uri d hd => ?_) environment h
    obtain ⟨hcovers, -⟩ := openDocument?_eq_some_iff.1 ((htidy.find?_eq uri).symm.trans hd)
    exact hcovers

/-- The settings that the first request finds are in force ever after: for which
documents are looked after, for the delimiters, for how many documents regions are kept,
and for all that is said. To what is exchanged with the editor it makes no difference how
files change from then on, as long as the preferences are the same. -/
theorem settings_frozen (environment : Environment) (files : FileTree) (early : List Happening)
    (id : Option Rpc.Id) (params : Option Json) :
    let waiting := Session.after environment ⟨.start, files⟩ early
    let first := Happening.incoming (.message "initialize" id params)
    let begun := waiting.next environment first
    (waiting.step environment first).response.isResult = true →
      ∃ startup, params.bind Startup.ofJson? = some startup ∧
        let root := (startup.folders.bind List.head?).bind Uri.localPath? <|>
          startup.root.bind Uri.localPath?
        let config := root.elim Config.standard fun directory =>
          .ofSettings (Settings.discover waiting.files directory).settings
        (∀ later,
          let s := begun.after environment later
          let server := s.service.server
          server.effective = config ∧
          (∀ uri, server.documents.find? uri =
            openDocument? config uri (begun.handled environment later)) ∧
          server.tagged.delimiters = config.usableDelimiters.1 ∧
          server.tagged.cache.capacity = config.maxDocuments.map (max · 1) ∧
          ∀ h, ∀ m ∈ (s.step environment h).sent, m.Under config) ∧
        ∀ hs hs', Parallel environment begun begun hs hs' →
          begun.exchanged environment hs' = begun.exchanged environment hs := by
  intro waiting first begun hresult
  obtain ⟨startup, found, hparams, hconfig, hbegun⟩ :=
    begun_of_startup (waiting_after (fun _ => rfl) early) rfl hresult
  have hbegun : begun = ⟨.begun environment found, waiting.files⟩ := hbegun
  refine ⟨startup, hparams, ?_⟩
  intro root config
  have hconfig : found.getD .standard = config := hconfig
  rw [← hconfig, hbegun]
  refine ⟨frozen_begun environment found waiting.files, fun hs hs' hparallel => ?_⟩
  exact (twins_begun environment found waiting.files).exchanged hparallel

theorem settings_frozen_against_writes :
    let environment : Environment := ⟨some (.ofText "/d"), none, none⟩
    let place := [Settings.fileName.bytes]
    let files := FileTree.put .empty place (.file "[retag]\nmax_documents = 1\n".toUTF8)
    let content := "[retag]\nadvisory = false\n".toUTF8
    let files' := files.put place (.file content)
    let refused := Happening.incoming (.message "initialize" (some (.number 0)) none)
    let first := Happening.startup (some "file:///")
    let opened := Happening.opened ⟨.atRoot "a.blade.php", "blade", 1, "x"⟩
    let waiting := Session.after environment ⟨.start, files⟩ [refused]
    let begun := waiting.next environment first
    (waiting.step environment first).response.isResult = true ∧
      files.write (.ofText "/retagls.toml") content = .ok files' ∧
      Parallel environment begun begun [opened] [.rewritten files', opened] ∧
      begun.exchanged environment [.rewritten files', opened] =
        begun.exchanged environment [opened] ∧
      (begun.after environment [.rewritten files', opened]).service.server.effective =
        { Config.standard with maxDocuments := some 1 } := by
  intro environment place files content files' refused first opened waiting begun
  have hresult : (waiting.step environment first).response.isResult = true := by decide +kernel
  have hresolve : files.resolve (.ofText "/retagls.toml") = .ok place := by
    have hnames : (Path.ofText "/retagls.toml").names = [[], Settings.fileName.bytes] := by
      decide +kernel
    have hplain : FileTree.Plain Settings.fileName.bytes :=
      ⟨by decide +kernel, by decide +kernel, by decide +kernel⟩
    rw [FileTree.resolve_eq_ok_iff, hnames]
    exact ⟨by decide +kernel, .idle rfl rfl (.enter rfl hplain rfl nofun (.stop _ _))⟩
  have hwrite : files.write (.ofText "/retagls.toml") content = .ok files' := by
    simp only [FileTree.write, hresolve]
    rfl
  have hsame : Preferences.SameIn (Preferences.path? environment) files files' := by
    refine Preferences.sameIn_write hwrite fun p hp => ?_
    rw [hresolve]
    intro hother
    have hnames : p.names = [[], [100], "retagls".toUTF8.data.toList,
        "preferences.toml".toUTF8.data.toList] := by
      obtain rfl := Option.some.inj hp
      decide +kernel
    obtain ⟨-, hleads⟩ := FileTree.resolve_eq_ok_iff.1 hother
    rw [hnames] at hleads
    have hnothing : files.node? ([] ++ [[100]]) = none := by decide +kernel
    -- There is no directory on the way to the preferences.
    cases hleads with
    | idle _ _ hrest =>
        cases hrest with
        | idle _ hidle => cases hidle
        | follow _ _ hlink => cases hnothing.symm.trans hlink
        | enter _ _ hnode => cases hnothing.symm.trans hnode
    | follow _ hplain => cases hplain.moves
    | enter _ hplain => cases hplain.moves
  have hbegun : begun.files = files := by
    obtain ⟨-, found, -, -, hbegun⟩ :=
      begun_of_startup (waiting_after (fun _ => rfl) [refused]) rfl hresult
    rw [show begun = _ from hbegun]
    rfl
  have hparallel : Parallel environment begun begun [opened] [.rewritten files', opened] :=
    .right files' (hbegun.symm ▸ hsame) (.message _ (.nil _ _))
  obtain ⟨startup, hparams, hfrozen, hexchanged⟩ :=
    settings_frozen environment files [refused] _ _ hresult
  have hstartup : startup = ⟨some ⟨"file", some ⟨"", "", none⟩, "/", none, none⟩, none⟩ :=
    Option.some.inj (hparams.symm.trans (by decide +kernel))
  have hsaid := hexchanged _ _ hparallel
  have hlater := (hfrozen [.rewritten files', opened]).1
  refine ⟨hresult, hwrite, hparallel, hsaid, hlater.trans ?_⟩
  have hroot : Uri.localPath? ⟨"file", some ⟨"", "", none⟩, "/", none, none⟩ =
      some (.ofText "/") := by decide +kernel
  have hfound : (Settings.discover waiting.files (.ofText "/")).settings =
      some ⟨none, none, none, none, none, some 1, none⟩ :=
    discover_one_place
  simp only [hstartup, Option.bind_none, Option.bind_some, hroot]
  exact congrArg Config.ofSettings hfound

/-- A path is a path under any scheme: settings may be found under a root whose URI is
that of no file. -/
theorem settings_of_any_scheme :
    let environment : Environment := ⟨none, none, none⟩
    let files := FileTree.put .empty [Settings.fileName.bytes]
      (.file "[retag]\nmax_documents = 1\n".toUTF8)
    let first := Happening.startup (some "x:/")
    let startup : Startup := ⟨some ⟨"x", none, "/", none, none⟩, none⟩
    let filePath? (uri : Uri) : Option Path := if uri.scheme = "file" then uri.localPath? else none
    let root := (startup.folders.bind List.head?).bind filePath? <|> startup.root.bind filePath?
    let config := root.elim Config.standard fun directory =>
      .ofSettings (Settings.discover files directory).settings
    Startup.ofJson? (Startup.params (some "x:/")) = some startup ∧
      (Session.step environment ⟨.start, files⟩ first).response.isResult = true ∧
      (Session.next environment ⟨.start, files⟩ first).service.server.effective ≠ config := by
  intro environment files first startup filePath? root config
  have hstartup : Startup.ofJson? (Startup.params (some "x:/")) = some startup := by
    decide +kernel
  have hresult : (Session.step environment ⟨.start, files⟩ first).response.isResult = true := by
    decide +kernel
  refine ⟨hstartup, hresult, ?_⟩
  obtain ⟨startup', found, hparams, hfound, hbegun⟩ :=
    begun_of_startup (s := ⟨.start, files⟩) (fun _ => rfl) rfl hresult
  obtain rfl : startup = startup' := Option.some.inj (hstartup.symm.trans hparams)
  have hdirectory : startup.directory? = some (.ofText "/") := by decide +kernel
  have heffective : (Session.next environment ⟨.start, files⟩ first).service.server.effective =
      found.getD .standard := by
    rw [show Session.next environment ⟨.start, files⟩ first = _ from hbegun]
    rfl
  have hlimit : (found.getD .standard).maxDocuments = some 1 := by
    rw [hfound, hdirectory, Option.elim_some, discover_one_place]
    rfl
  have hnone : config.maxDocuments = none := by
    have hroot : root = none := by decide +kernel
    simp only [config, hroot]
    rfl
  intro heq
  rw [heffective] at heq
  cases hnone.symm.trans ((congrArg Config.maxDocuments heq).symm.trans hlimit)

end Session

end Bilingual
