import Bilingual.Proofs.Server.Remembering
import Bilingual.Proofs.Session.Messages
import Bilingual.Proofs.Session.Prompting

/-!
What an answer to the advisory changes over a whole session, and over later ones.
Nothing is ever written but the wish not to be asked again, and whoever has wished
so is not asked again.
-/

namespace Bilingual.Session

/-- A message that asks the question of that number. -/
def Asks (n : Nat) (m : Outgoing) : Prop := ∃ text titles, m = .prompt n text titles

/-- The question of that number has been asked, and nobody has answered it since. -/
def Pending (environment : Environment) (s : Session) (hs : List Happening) (n : Nat) : Prop :=
  ∃ before h later, hs = before ++ h :: later ∧
    (∃ m ∈ ((after environment s before).step environment h).sent, Asks n m) ∧
    ∀ answer, Happening.incoming (.reply (.number n) answer) ∉ later

/-- A question is pending behind one more step if the step asks it, or if it was
pending before and is not answered. -/
def StillPending (pending : Nat → Prop) (h : Happening) (sent : List Outgoing) (n : Nat) : Prop :=
  (pending n ∧ ∀ answer, h ≠ .incoming (.reply (.number n) answer)) ∨ ∃ m ∈ sent, Asks n m

/-- A pending question is answered, in a session that is not over, by the one title;
and there is a place for preferences. -/
structure Dismisses (environment : Environment) (pending : Nat → Prop) (s : Session)
    (m : Incoming) (path : Path) : Prop where
  going : s.service.phase ≠ .exited
  path_eq : Preferences.path? environment = some path
  answers : ∃ n members, pending n ∧ m = .reply (.number n) (.ok (.object members)) ∧
    members.lookup "title" = some (.string "Don't show again")

/-- The server keeps the questions that are pending. -/
structure Asking (environment : Environment) (pending : Nat → Prop) (s : Session) : Prop where
  preferences_eq : ∀ q ∈ s.service.server.questions, q.preferences = Preferences.path? environment
  pending_iff : s.service.phase ≠ .exited →
    ∀ n, (∃ q ∈ s.service.server.questions, q.id = n) ↔ pending n

variable {environment : Environment} {opened : Prop} {pending : Nat → Prop} {s s' : Session}

theorem pending_concat (hs : List Happening) (h : Happening) (n : Nat) :
    Pending environment s (hs ++ [h]) n ↔
      StillPending (Pending environment s hs) h ((after environment s hs).step environment h).sent
        n := by
  refine (exists_split_concat_iff (p := fun before h later =>
    (∃ m ∈ ((after environment s before).step environment h).sent, Asks n m) ∧
      ∀ answer, Happening.incoming (.reply (.number n) answer) ∉ later)).trans ?_
  refine or_congr ?_ (by simp)
  constructor
  · rintro ⟨before, g, later, rfl, hasks, hlater⟩
    refine ⟨⟨before, g, later, rfl, hasks, fun answer hmem => ?_⟩, fun answer heq => ?_⟩
    · exact hlater answer (List.mem_append_left _ hmem)
    · exact hlater answer (by simp [heq])
  · rintro ⟨⟨before, g, later, rfl, hasks, hlater⟩, hh⟩
    refine ⟨before, g, later, rfl, hasks, fun answer hmem => ?_⟩
    rcases List.mem_append.1 hmem with hmem | hmem
    · exact hlater answer hmem
    · exact hh answer (List.mem_singleton.1 hmem).symm

theorem Asks.isPrompt {n : Nat} {m : Outgoing} (h : Asks n m) : m.IsPrompt := by
  obtain ⟨text, titles, rfl⟩ := h
  exact Outgoing.isPrompt_iff.2 ⟨n, text, titles, rfl⟩

/-- No question is asked and none is answered. -/
theorem Asking.keep (hs : s.Asking environment pending) {h : Happening} {o : Outcome}
    (hquestions : o.service.server.questions = s.service.server.questions)
    (hphase : o.service.phase ≠ .exited → s.service.phase ≠ .exited)
    (hsilent : ∀ m ∈ o.sent, ¬ m.IsPrompt)
    (hreply : o.service.phase ≠ .exited → ∀ n, pending n →
      ∀ answer, h ≠ .incoming (.reply (.number n) answer)) :
    Asking environment (StillPending pending h o.sent) ⟨o.service, o.files⟩ where
  preferences_eq := by rw [hquestions]; exact hs.preferences_eq
  pending_iff hgoing n := by
    rw [hquestions, hs.pending_iff (hphase hgoing) n]
    constructor
    · exact fun hpending => Or.inl ⟨hpending, hreply hgoing n hpending⟩
    · rintro (⟨hpending, -⟩ | ⟨m, hm, hasks⟩)
      · exact hpending
      · exact absurd hasks.isPrompt (hsilent m hm)

/-- A question is asked. -/
theorem Asking.ask (hs : s.Asking environment pending) {h : Happening} {o : Outcome} {n : Nat}
    {path : Option Path} {text : String} {titles : List String}
    (hpath : path = Preferences.path? environment) (hgoing : s.service.phase ≠ .exited)
    (hquestions : o.service.server.questions = s.service.server.questions ++ [⟨n, path⟩])
    (hsent : o.sent = [.prompt n text titles])
    (hreply : ∀ n answer, h ≠ .incoming (.reply (.number n) answer)) :
    Asking environment (StillPending pending h o.sent) ⟨o.service, o.files⟩ where
  preferences_eq q hq := by
    rw [hquestions, List.mem_append, List.mem_singleton] at hq
    rcases hq with hq | rfl
    · exact hs.preferences_eq q hq
    · exact hpath
  pending_iff _ n := by
    have hsame := hs.pending_iff hgoing n
    simp [hquestions, hsent, StillPending, Asks, ← hsame, hreply n]

/-- A question is answered. -/
theorem Asking.settle (hs : s.Asking environment pending) {o : Outcome} {q : Question}
    {answer : Except Rpc.Error Json} (hgoing : s.service.phase ≠ .exited)
    (hquestions : o.service.server.questions =
      s.service.server.questions.filter (·.id ≠ q.id))
    (hsent : o.sent = []) :
    Asking environment (StillPending pending (.incoming (.reply (.number q.id) answer)) o.sent)
      ⟨o.service, o.files⟩ where
  preferences_eq q' hq' := by
    rw [hquestions] at hq'
    exact hs.preferences_eq q' (List.mem_filter.1 hq').1
  pending_iff _ n := by
    rw [hquestions, hsent, StillPending, ← hs.pending_iff hgoing n]
    constructor
    · rintro ⟨q', hq', rfl⟩
      obtain ⟨hmem, hne⟩ := List.mem_filter.1 hq'
      refine Or.inl ⟨⟨q', hmem, rfl⟩, fun answer' heq => ?_⟩
      obtain ⟨hid, -⟩ : (q.id : Int) = q'.id ∧ answer = answer' := by simpa using heq
      exact of_decide_eq_true hne (Int.ofNat.inj hid).symm
    · rintro (⟨⟨q', hmem, rfl⟩, hne⟩ | ⟨m, hm, -⟩)
      · refine ⟨q', List.mem_filter.2 ⟨hmem, decide_eq_true fun heq => ?_⟩, rfl⟩
        exact hne answer (by rw [heq])
      · cases hm

theorem Asking.step (hs : s.Asking environment pending) (ha : s.Advised environment opened)
    (h : Happening) :
    (s.next environment h).Asking environment
      (StillPending pending h (s.step environment h).sent) := by
  have hturn := turn_step environment s h
  simp only [next]
  generalize s.step environment h = o at hturn ⊢
  cases hturn with
  | quiet hquiet =>
      have hgoing (hnext : o.service.phase ≠ .exited) : s.service.phase ≠ .exited := by
        intro hexited
        rcases hquiet.phase_eq with heq | heq | ⟨hactive, -⟩
        · exact hnext (heq.trans hexited)
        · exact hnext heq
        · cases hactive.symm.trans hexited
      refine hs.keep hquiet.same.questions_eq hgoing hquiet.silent ?_
      intro hnext n _ answer heq
      exact hgoing hnext (hquiet.unanswered _ _ heq)
  | begun response startup hphase hreply =>
      obtain ⟨-, -, hquestions, -, hsent⟩ := s.service.server.begin_spec s.files environment startup
      refine hs.keep hquestions ?_ ?_ fun _ n _ => hreply (.number n)
      · intro _ hexited
        cases hphase.symm.trans hexited
      · simp [Service.serve, hsent]
  | opened d hopens hreply =>
      have hsame := s.service.server.sameAdvisory_track d.uri d.version d.text
      have hgoing : s.service.phase ≠ .exited := by
        intro hexited
        cases hopens.1.symm.trans hexited
      generalize (s.service.server.track d.uri d.version d.text).1 = server at hsame ⊢
      rcases server.advise_cases s.files with
        ⟨-, hquiet⟩ | ⟨-, -, ⟨-, hsent, hquestions⟩ | ⟨-, hsent, hquestions⟩⟩
      · exact hs.keep (hquiet.same.questions_eq.trans hsame.questions_eq) (fun _ => hgoing)
          hquiet.silent fun _ n _ => hreply (.number n)
      · exact hs.keep (hquestions.trans hsame.questions_eq) (fun _ => hgoing)
          (by simp [Service.serve, hsent]) fun _ n _ => hreply (.number n)
      · exact hs.ask (ha.preferences_eq hopens.1) hgoing
          (by rw [← hsame.questions_eq, ← hsame.preferences_eq]; exact hquestions) hsent
          fun n => hreply (.number n)
  | answered id answer hphase =>
      rcases s.service.server.answered_cases s.files id answer with
        ⟨hother, heq⟩ | ⟨q, hq, rfl, heq⟩
      · rw [heq]
        refine hs.keep rfl (fun _ => hphase) (by simp [Service.serve]) ?_
        intro _ n hpending answer' hreply
        obtain ⟨q, hq, rfl⟩ := (hs.pending_iff hphase n).2 hpending
        cases hreply
        exact hother q hq rfl
      · rw [heq]
        exact hs.settle hphase rfl rfl

/-- A message makes for a write exactly if it is the one that dismisses the advisory. -/
theorem Asking.files_step (hs : s.Asking environment pending) (m : Incoming) :
    let o := s.step environment (.incoming m)
    (∃ path, s.Dismisses environment pending m path ∧
      o.files = (Preferences.save s.files path ⟨true⟩).1) ∨
    (∀ path, ¬ s.Dismisses environment pending m path) ∧ o.files = s.files := by
  have hother (hreply : ∀ id answer, m = .reply id answer → s.service.phase = .exited)
      (path : Path) : ¬ s.Dismisses environment pending m path := by
    rintro ⟨hgoing, -, n, members, -, heq, -⟩
    exact hgoing (hreply _ _ heq)
  have hturn := turn_step environment s (.incoming m)
  generalize s.step environment (.incoming m) = o at hturn ⊢
  generalize hh : Happening.incoming m = h at hturn
  cases hturn with
  | quiet hquiet =>
      refine Or.inr ⟨hother fun id answer heq => ?_, hquiet.kept m hh.symm⟩
      exact hquiet.unanswered id answer (heq ▸ hh.symm)
  | begun response startup hphase hreply =>
      obtain ⟨-, -, -, hfiles, -⟩ := s.service.server.begin_spec s.files environment startup
      refine Or.inr ⟨hother fun id answer heq => ?_, hfiles⟩
      exact absurd (heq ▸ hh.symm) (hreply id answer)
  | opened d hopens hreply =>
      refine Or.inr ⟨hother fun id answer heq => ?_, ?_⟩
      · exact absurd (heq ▸ hh.symm) (hreply id answer)
      · rcases Server.advise_cases (s.service.server.track d.uri d.version d.text).1 s.files with
          ⟨-, hquiet⟩ | ⟨-, ⟨hfiles, -⟩, -⟩
        · exact hquiet.files_eq
        · exact hfiles
  | answered id answer hphase =>
      cases hh
      rcases s.service.server.answered_cases s.files id answer with
        ⟨hunasked, heq⟩ | ⟨q, hq, rfl, heq⟩
      · rw [heq]
        refine Or.inr ⟨?_, rfl⟩
        rintro path ⟨-, -, n, members, hpending, hm, -⟩
        cases hm
        obtain ⟨q, hq, rfl⟩ := (hs.pending_iff hphase n).2 hpending
        exact hunasked q hq rfl
      · rw [heq]
        rcases Advisory.answered_cases s.files q.preferences answer with
          ⟨result, path, rfl, ⟨members, rfl, htitle⟩, hpath, hfiles⟩ | ⟨hother, hfiles⟩
        · have hpending := (hs.pending_iff hphase q.id).1 ⟨q, hq, rfl⟩
          exact Or.inl ⟨path, ⟨hphase, (hs.preferences_eq q hq).symm.trans hpath, q.id, members,
            hpending, rfl, htitle⟩, hfiles⟩
        · refine Or.inr ⟨?_, hfiles⟩
          rintro path ⟨-, hpath, n, members, -, hm, htitle⟩
          cases hm
          exact hother _ path rfl ⟨members, rfl, htitle⟩ ((hs.preferences_eq q hq).trans hpath)

/-- Behind any run the server keeps the questions that are pending. -/
theorem asking_after (environment : Environment) (files : FileTree) (hs : List Happening) :
    let start : Session := ⟨.start, files⟩
    (start.after environment hs).Asking environment (Pending environment start hs) := by
  intro start
  induction hs using List.reverseRecOn with
  | nil =>
      refine ⟨fun q hq => absurd hq List.not_mem_nil, fun _ n => iff_of_false ?_ ?_⟩
      · rintro ⟨q, hq, -⟩
        cases hq
      · rintro ⟨before, h, later, heq, -⟩
        simp at heq
  | append_singleton hs h ih =>
      have hnext := ih.step (advised_after environment files hs).1 h
      rw [after_concat]
      exact ⟨hnext.preferences_eq, fun hgoing n =>
        (hnext.pending_iff hgoing n).trans (pending_concat hs h n).symm⟩

theorem not_pending_of_prompts_eq_nil {hs : List Happening}
    (h : prompts (outcomes environment s hs) = []) (n : Nat) :
    ¬ Pending environment s hs n := by
  rintro ⟨before, g, later, rfl, ⟨m, hm, hasks⟩, -⟩
  refine (prompts_outcomes_ne_nil_iff _).2 ⟨before, g, later, rfl, ?_⟩ h
  exact List.ne_nil_of_mem (mem_prompts.2 ⟨_, List.mem_singleton_self _, hm, hasks.isPrompt⟩)

/-- Who has dismissed the advisory is not asked again, as long as nobody else changes
the preferences. The file stays as it is, since nothing is written where nothing has
been asked. -/
theorem silent_of_dismissed {files : FileTree} {path : Path}
    (hpath : Preferences.path? environment = some path)
    (htext : files.readText path = .ok (Preferences.text ⟨true⟩)) {hs : List Happening}
    (hkept : ∀ files', .rewritten files' ∈ hs → files'.readText path = files.readText path) :
    let start : Session := ⟨.start, files⟩
    prompts (start.outcomes environment hs) = [] ∧
      (start.after environment hs).files.readText path = files.readText path := by
  intro start
  induction hs using List.reverseRecOn with
  | nil => exact ⟨rfl, rfl⟩
  | append_singleton hs h ih =>
      obtain ⟨hsilent, hfile⟩ := ih fun files' hmem => hkept files' (List.mem_append_left _ hmem)
      -- The text is still there, so this step does not ask. Nothing has been asked so far,
      -- so it does not write either.
      rw [outcomes_concat, prompts_append, hsilent, List.nil_append, after_concat]
      constructor
      · rcases ((advised_after environment files hs).1.step h).2 with ⟨hcalls, -⟩ | ⟨-, hnone⟩
        · refine absurd ⟨path, hpath, ?_⟩ hcalls.undismissed
          rw [Preferences.load_of_text (hfile.trans htext)]
        · exact hnone
      · cases h with
        | rewritten files' => exact hkept files' (by simp)
        | incoming m =>
            rcases (asking_after environment files hs).files_step m with
              ⟨path', ⟨-, -, n, members, hpending, -⟩, -⟩ | ⟨-, hfiles⟩
            · exact absurd hpending (not_pending_of_prompts_eq_nil hsilent n)
            · exact (congrArg (·.readText path) hfiles).trans hfile

/-- Files change in one step only: in that of the answer which dismisses the advisory.
If the wish is saved then, it is found in the preferences, and no later session asks
the question, under whatever settings. -/
theorem dismissal_lasts (environment : Environment) (files : FileTree) (hs : List Happening)
    (m : Incoming) :
    let start : Session := ⟨.start, files⟩
    let s := start.after environment hs
    let o := s.step environment (.incoming m)
    let Dismissing := s.Dismisses environment (Pending environment start hs) m
    (o.files ≠ s.files → ∃ path, Dismissing path) ∧
    ∀ path, Dismissing path →
      let saved := Preferences.save s.files path ⟨true⟩
      o.files = saved.1 ∧
      (saved.2 = .ok () →
        o.files.readText path = .ok "advisory_dismissed = true\n" ∧
        ∀ environment' files' hs', Preferences.path? environment' = some path →
          files'.readText path = o.files.readText path →
          (∀ files'', .rewritten files'' ∈ hs' → files''.readText path = files'.readText path) →
          prompts (Session.outcomes environment' ⟨.start, files'⟩ hs') = []) := by
  intro start s o Dismissing
  have hstep := (asking_after environment files hs).files_step m
  constructor
  · intro hchanged
    rcases hstep with ⟨path, hdismisses, -⟩ | ⟨-, hsame⟩
    · exact ⟨path, hdismisses⟩
    · exact absurd hsame hchanged
  · intro path hdismisses
    have hfiles : o.files = (Preferences.save s.files path ⟨true⟩).1 := by
      rcases hstep with ⟨path', hdismisses', hfiles⟩ | ⟨hnot, -⟩
      · obtain rfl : path' = path :=
          Option.some.inj (hdismisses'.path_eq.symm.trans hdismisses.path_eq)
        exact hfiles
      · exact absurd hdismisses (hnot path)
    refine ⟨hfiles, fun hsaved => ?_⟩
    have htext : o.files.readText path = .ok (Preferences.text ⟨true⟩) := by
      rw [hfiles]
      exact Preferences.readText_save hsaved
    refine ⟨htext, ?_⟩
    intro environment' files' hs' hpath hsame hkept
    exact (silent_of_dismissed hpath (hsame.trans htext) hkept).1

/-- Where there are no files there are no preferences. -/
theorem load_of_no_files :
    Preferences.load .empty (.ofText "/retagls/preferences.toml") = (⟨false⟩, []) := by
  have hnames : (Path.ofText "/retagls/preferences.toml").names =
      [[], (Path.ofText "retagls").bytes, (Path.ofText "preferences.toml").bytes] := by
    decide +kernel
  have hcheck : FileTree.checkPath (.ofText "/retagls/preferences.toml") = .ok () := by
    decide +kernel
  have hwalk : FileTree.walk .empty FileTree.linkLimit []
      (Path.ofText "/retagls/preferences.toml").names = .error .notFound := by
    rw [hnames]
    simp +decide [FileTree.walk]
  simp only [Preferences.load, FileTree.readText, FileTree.find, FileTree.resolve, hcheck, hwalk]
  rfl

/-- The directory is made first, and then the file. -/
theorem save_of_no_files :
    (Preferences.save .empty (.ofText "/retagls/preferences.toml") ⟨true⟩).2 = .ok () := by
  let directory : Name := (Path.ofText "retagls").bytes
  let file : Name := (Path.ofText "preferences.toml").bytes
  let made : FileTree := .put .empty [directory] .directory
  have hmade : FileTree.createDirectories .empty (.ofText "/retagls") = (made, .ok ()) := by
    have hnames : (Path.ofText "/retagls").names.reverse.dropWhile List.isEmpty =
        [directory, []] := by
      decide +kernel
    have hempty : (Path.ofText "/retagls").isEmpty = false := by decide +kernel
    have hcheck : FileTree.checkPath (.ofText "/retagls") = .ok () := by decide +kernel
    have hroot : FileTree.walk .empty FileTree.linkLimit [] [[]] = .ok [] :=
      FileTree.walk_of_leads (.idle rfl rfl (.stop _ _))
    have hplace : FileTree.newPlace .empty (.ofText "/retagls") = .ok [directory] := by
      unfold FileTree.newPlace
      rw [hcheck, hnames]
      simp only [List.reverse_singleton, hroot]
      decide +kernel
    simp only [FileTree.createDirectories, FileTree.createChain, hempty, FileTree.createDirectory,
      hplace]
    rfl
  have hresolve : made.resolve (.ofText "/retagls/preferences.toml") = .ok [directory, file] := by
    have hnames : (Path.ofText "/retagls/preferences.toml").names = [[], directory, file] := by
      decide +kernel
    have hdirectory : FileTree.Plain directory :=
      ⟨by decide +kernel, by decide +kernel, by decide +kernel⟩
    have hfile : FileTree.Plain file := ⟨by decide +kernel, by decide +kernel, by decide +kernel⟩
    have hnode : made.node? [directory] = some .directory := by decide +kernel
    have hnone : made.node? [directory, file] = none := by decide +kernel
    rw [FileTree.resolve_eq_ok_iff, hnames]
    refine ⟨by decide +kernel, .idle rfl rfl ?_⟩
    exact .enter rfl hdirectory hnode (by simp) (.new hnode hfile hnone)
  have hparent : (Path.ofText "/retagls/preferences.toml").parent? =
      some (.ofText "/retagls") := by
    decide +kernel
  simp only [Preferences.save, hparent, hmade, FileTree.write, hresolve]
  rfl

/-- A dismissal at the end of a short session, with no preferences before it. -/
theorem dismissal_lasts_without_preferences :
    let environment : Environment := ⟨some (.ofText "/"), none, none⟩
    let path := Path.ofText "/retagls/preferences.toml"
    let first := Happening.startup none
    let uri := Uri.atRoot "a.blade.php"
    let opened := Happening.opened ⟨uri, "blade", 1, "x"⟩
    let answer := Incoming.reply (.number 0)
      (.ok (.object [("title", .string "Don't show again")]))
    let start : Session := ⟨.start, .empty⟩
    let s := start.after environment [first, opened]
    let o := s.step environment (.incoming answer)
    s.Dismisses environment (Pending environment start [first, opened]) answer path ∧
      (Preferences.save s.files path ⟨true⟩).2 = .ok () ∧ o.files ≠ s.files ∧
      o.files.readText path = .ok "advisory_dismissed = true\n" ∧
      prompts (Session.outcomes environment ⟨.start, o.files⟩ [first, opened]) = [] := by
  intro environment path first uri opened answer start s o
  have hfirst : start.next environment first = ⟨.begun environment none, .empty⟩ := rfl
  have hreport : opened.report? = some (.opened ⟨uri, "blade", 1, "x"⟩) := by decide +kernel
  have hstep : (start.next environment first).step environment opened =
      Service.serve .active .silent ((Service.begun environment none).server.handle .empty
        (.opened ⟨uri, "blade", 1, "x"⟩)) := by
    rw [hfirst]
    exact step_of_report rfl hreport
  have hcovers : (Service.begun environment none).server.effective.covers uri = true := by
    decide +kernel
  rcases (Service.begun environment none).server.handle_cases .empty
      (.opened ⟨uri, "blade", 1, "x"⟩) with ⟨d, heq, -, hhandle⟩ | ⟨hpassed, -⟩
  swap
  · cases (hpassed _ rfl).symm.trans hcovers
  cases heq
  rw [hhandle] at hstep
  obtain ⟨heffective, hpreferences, hshown, -⟩ :=
    (Service.begun environment none).server.sameAdvisory_track uri 1 "x"
  have hid : ((Service.begun environment none).server.track uri 1 "x").1.nextId = 0 := by
    decide +kernel
  generalize ((Service.begun environment none).server.track uri 1 "x").1 = server at *
  have hundismissed : ¬ Preferences.Dismissed server.preferences .empty := by
    rintro ⟨p, hp, hload⟩
    obtain rfl : path = p := Option.some.inj (hpreferences.symm.trans hp)
    rw [load_of_no_files] at hload
    cases hload
  rcases server.advise_cases .empty with
    ⟨hoff | hoff, -⟩ | ⟨-, ⟨hfiles, -⟩, ⟨hdismissed, -⟩ | ⟨-, hsent, -⟩⟩
  · cases hoff.symm.trans (congrArg Config.advisory heffective)
  · cases hoff.symm.trans hshown
  · exact absurd hdismissed hundismissed
  have hs : s = ⟨⟨.active, (server.advise .empty).server⟩, .empty⟩ := by
    have hlast : s = (start.next environment first).next environment opened := rfl
    rw [hlast, next, hstep, Service.serve, hfiles]
  have hpending : Pending environment start [first, opened] 0 := by
    have hbegun : start.after environment [first] = start.next environment first := rfl
    refine ⟨[first], opened, [], rfl, ?_, fun _ => List.not_mem_nil⟩
    rw [hbegun, hstep, Service.serve, hsent, hid]
    exact ⟨_, List.mem_singleton_self _, _, _, rfl⟩
  have hdismisses :
      s.Dismisses environment (Pending environment start [first, opened]) answer path := by
    refine ⟨?_, by decide +kernel, 0, _, hpending, rfl, rfl⟩
    rw [hs]
    simp
  have hsaved : (Preferences.save s.files path ⟨true⟩).2 = .ok () := by
    rw [hs]
    exact save_of_no_files
  obtain ⟨htext, hlater⟩ :=
    ((dismissal_lasts environment .empty [first, opened] answer).2 path hdismisses).2 hsaved
  refine ⟨hdismisses, hsaved, fun hsame => ?_, htext, ?_⟩
  · rw [hsame, hs] at htext
    cases (Preferences.load_of_text (p := ⟨true⟩) htext).symm.trans load_of_no_files
  · exact hlater environment o.files [first, opened] hdismisses.path_eq rfl
      (by simp [first, opened, Happening.startup, Happening.opened])

end Bilingual.Session
