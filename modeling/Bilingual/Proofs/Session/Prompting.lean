import Bilingual.Proofs.Session.Freezing
import Bilingual.Proofs.Session.Lifecycle
import Bilingual.Proofs.Session.Messages

/-!
The advisory over a whole session. It is brought up once at most: when the first
document that is looked after is opened, if it is wanted and has not been dismissed
by then.
-/

namespace Bilingual.Session

/-- Some step of the run opens a document that is looked after. -/
def Opened (environment : Environment) (s : Session) (hs : List Happening) : Prop :=
  ∃ before h later, hs = before ++ h :: later ∧ (after environment s before).Opens h

/-- The first document is opened, the advisory is wanted, and it is not dismissed. -/
structure Calls (environment : Environment) (opened : Prop) (s : Session) (h : Happening) :
    Prop where
  opens : s.Opens h
  first : ¬ opened
  wanted : s.service.server.effective.advisory = true
  undismissed : ¬ Preferences.Dismissed (Preferences.path? environment) s.files

/-- The questions among the messages of some steps. -/
def prompts (outcomes : List Outcome) : List Outgoing :=
  (outcomes.flatMap (·.sent)).filter (·.IsPrompt)

/-- A step asks one question if it is called to, and else none. -/
def AsksIf (called : Prop) (o : Outcome) : Prop :=
  called ∧ (prompts [o]).length = 1 ∨ ¬ called ∧ prompts [o] = []

/-- What the server knows of the advisory, behind a run that has opened a document
that is looked after, or has not. -/
structure Advised (environment : Environment) (opened : Prop) (s : Session) : Prop where
  waiting : s.service.phase = .waiting → s.service = .start ∧ ¬ opened
  preferences_eq : s.service.phase = .active →
    s.service.server.preferences = Preferences.path? environment
  shown_iff : s.service.server.advisoryShown = true ↔
    s.service.server.effective.advisory = true ∧ opened

variable {environment : Environment} {opened : Prop} {s s' : Session} {h : Happening}

theorem opened_concat (hs : List Happening) :
    Opened environment s (hs ++ [h]) ↔
      Opened environment s hs ∨ (after environment s hs).Opens h :=
  exists_split_concat_iff

theorem mem_prompts {outcomes : List Outcome} {m : Outgoing} :
    m ∈ prompts outcomes ↔ ∃ o ∈ outcomes, m ∈ o.sent ∧ m.IsPrompt := by
  simp only [prompts, List.mem_filter, List.mem_flatMap, decide_eq_true_eq]
  constructor
  · rintro ⟨⟨o, ho, hm⟩, hprompt⟩
    exact ⟨o, ho, hm, hprompt⟩
  · rintro ⟨o, ho, hm, hprompt⟩
    exact ⟨⟨o, ho, hm⟩, hprompt⟩

theorem prompts_append (os os' : List Outcome) :
    prompts (os ++ os') = prompts os ++ prompts os' := by
  simp [prompts]

theorem asksIf_of_silent {called : Prop} {o : Outcome} (hcalled : ¬ called)
    (h : ∀ m ∈ o.sent, ¬ m.IsPrompt) : AsksIf called o := by
  refine Or.inr ⟨hcalled, ?_⟩
  simpa [prompts, List.filter_eq_nil_iff] using h

/-- Nothing is new about the advisory, and the session is not further than before
or at its end. -/
theorem Advised.keep (hs : s.Advised environment opened)
    (hwaiting : s'.service.phase = .waiting → s'.service = .start)
    (hphase : s'.service.phase = .waiting ∨ s'.service.phase = .active →
      s'.service.phase = s.service.phase)
    (heffective : s'.service.server.effective = s.service.server.effective)
    (hpreferences : s'.service.server.preferences = s.service.server.preferences)
    (hshown : s'.service.server.advisoryShown = s.service.server.advisoryShown) :
    s'.Advised environment opened where
  waiting h := ⟨hwaiting h, (hs.waiting ((hphase (Or.inl h)).symm.trans h)).2⟩
  preferences_eq h := hpreferences.trans (hs.preferences_eq ((hphase (Or.inr h)).symm.trans h))
  shown_iff := by rw [hshown, heffective, hs.shown_iff]

/-- The first document or another one that is looked after is opened. -/
theorem Advised.advise (hs : s.Advised environment opened) (hopens : s.Opens h) {server : Server}
    (hsame : s.service.server.SameAdvisory server) :
    let o := Service.serve .active .silent (server.advise s.files)
    Advised environment True ⟨o.service, o.files⟩ ∧
      AsksIf (s.Calls environment opened h) o := by
  have hpreferences := hsame.preferences_eq.trans (hs.preferences_eq hopens.1)
  rcases server.advise_cases s.files with
    ⟨hidle, hquiet⟩ | ⟨⟨hadvisory, hshown⟩, ⟨-, heffective, hkept, hshown'⟩, hdismissed⟩
  · refine ⟨⟨by simp [Service.serve], fun _ => hquiet.same.preferences_eq.trans hpreferences, ?_⟩,
      asksIf_of_silent (fun hcalls => ?_) hquiet.silent⟩
    · have hiff := hs.shown_iff
      rw [← hsame.shown_eq, ← hsame.effective_eq] at hiff
      dsimp only [Service.serve]
      rw [hquiet.same.shown_eq, hquiet.same.effective_eq]
      rcases hidle with hidle | hidle
      · simp [hidle, hiff]
      · simp [hidle, (hiff.1 hidle).1]
    · rcases hidle with hidle | hidle
      · rw [hsame.effective_eq, hcalls.wanted] at hidle
        cases hidle
      · exact hcalls.first (hs.shown_iff.1 (hsame.shown_eq ▸ hidle)).2
  · -- From here on the advisory counts as shown, even if it turns out to be dismissed.
    have hwanted : s.service.server.effective.advisory = true := hsame.effective_eq ▸ hadvisory
    have hfirst : ¬ opened := by
      intro hopened
      have := hs.shown_iff.2 ⟨hwanted, hopened⟩
      cases hshown.symm.trans (hsame.shown_eq.trans this)
    rw [hpreferences] at hdismissed
    refine ⟨⟨by simp [Service.serve], fun _ => hkept.trans hpreferences, ?_⟩, ?_⟩
    · simp [Service.serve, hshown', heffective, hadvisory]
    · rcases hdismissed with ⟨hdismissed, hsent, -⟩ | ⟨hundismissed, hsent, -⟩
      · refine asksIf_of_silent (fun hcalls => hcalls.undismissed hdismissed) ?_
        simp [Service.serve, hsent]
      · refine Or.inl ⟨⟨hopens, hfirst, hwanted, hundismissed⟩, ?_⟩
        simp [prompts, Service.serve, hsent, Outgoing.isPrompt_iff]

/-- One step asks a question if the advisory is called for, and then just one. -/
theorem Advised.step (hs : s.Advised environment opened) (h : Happening) :
    (s.next environment h).Advised environment (opened ∨ s.Opens h) ∧
      AsksIf (s.Calls environment opened h) (s.step environment h) := by
  have hwaiting : (s.next environment h).service.phase = .waiting →
      (s.next environment h).service = .start :=
    waiting_next (fun hw => (hs.waiting hw).1) h
  have hidle (hunopened : ¬ s.Opens h) : ¬ s.Calls environment opened h :=
    fun hcalls => hunopened hcalls.opens
  have hturn := turn_step environment s h
  simp only [next] at hwaiting ⊢
  generalize s.step environment h = o at hturn hwaiting ⊢
  cases hturn with
  | quiet hquiet =>
      rw [or_iff_left hquiet.unopened]
      refine ⟨hs.keep hwaiting ?_ hquiet.same.effective_eq hquiet.same.preferences_eq
        hquiet.same.shown_eq, asksIf_of_silent (hidle hquiet.unopened) hquiet.silent⟩
      dsimp only
      rcases hquiet.phase_eq with heq | heq | ⟨-, heq⟩ <;> simp [heq]
  | begun response startup hphase hreply =>
      have hunopened : ¬ s.Opens h := by
        rintro ⟨hactive, -⟩
        cases hphase.symm.trans hactive
      obtain ⟨hpreferences, hshown, -, -, hsent⟩ :=
        s.service.server.begin_spec s.files environment startup
      obtain ⟨hstart, hclosed⟩ := hs.waiting hphase
      rw [or_iff_left hunopened]
      refine ⟨⟨by simp [Service.serve], fun _ => hpreferences, ?_⟩,
        asksIf_of_silent (hidle hunopened) ?_⟩
      · have hfresh : s.service.server.advisoryShown = false := by
          rw [hstart]
          rfl
        simp [Service.serve, hshown, hfresh, hclosed]
      · simp [Service.serve, hsent]
  | opened d hopens hreply =>
      rw [eq_true (Or.inr hopens : opened ∨ s.Opens h)]
      exact hs.advise hopens (s.service.server.sameAdvisory_track d.uri d.version d.text)
  | answered id answer hphase =>
      have hunopened : ¬ s.Opens (.incoming (.reply id answer)) :=
        not_opens_of_report?_eq_none rfl
      rw [or_iff_left hunopened]
      rcases s.service.server.answered_cases s.files id answer with
        ⟨-, heq⟩ | ⟨q, -, -, heq⟩
      · rw [heq] at hwaiting ⊢
        exact ⟨hs.keep hwaiting (fun _ => rfl) rfl rfl rfl,
          asksIf_of_silent (hidle hunopened) (by simp [Service.serve])⟩
      · rw [heq] at hwaiting ⊢
        exact ⟨hs.keep hwaiting (fun _ => rfl) rfl rfl rfl,
          asksIf_of_silent (hidle hunopened) (by simp [Service.serve])⟩

theorem advised_start (environment : Environment) (files : FileTree) :
    Advised environment (Opened environment ⟨.start, files⟩ []) ⟨.start, files⟩ := by
  have hunopened : ¬ Opened environment ⟨.start, files⟩ [] := by
    rintro ⟨before, h, later, heq, -⟩
    simp at heq
  exact ⟨fun _ => ⟨rfl, hunopened⟩, by simp [Service.start],
    iff_of_false (by simp [Service.start, Server.start]) fun h => hunopened h.2⟩

/-- Behind any run the server knows whether the advisory has been called for, and a
question has been asked only for an opened document. -/
theorem advised_after (environment : Environment) (files : FileTree) (hs : List Happening) :
    let start : Session := ⟨.start, files⟩
    let asked := prompts (start.outcomes environment hs)
    (start.after environment hs).Advised environment (Opened environment start hs) ∧
      (asked = [] ∨ Opened environment start hs ∧ asked.length = 1) := by
  intro start
  induction hs using List.reverseRecOn with
  | nil => exact ⟨advised_start environment files, Or.inl rfl⟩
  | append_singleton hs h ih =>
      obtain ⟨hadvised, hasked⟩ := ih
      obtain ⟨hnext, hstep⟩ := hadvised.step h
      rw [after_concat, opened_concat, outcomes_concat, prompts_append]
      refine ⟨hnext, ?_⟩
      rcases hstep with ⟨hcalls, hone⟩ | ⟨-, hnone⟩
      · rcases hasked with hasked | ⟨hopened, -⟩
        · exact Or.inr ⟨Or.inr hcalls.opens, by rw [hasked, List.nil_append, hone]⟩
        · exact absurd hopened hcalls.first
      · rw [hnone, List.append_nil]
        exact hasked.imp_right fun h => ⟨Or.inl h.1, h.2⟩

/-- A run asks something if one of its steps does. -/
theorem prompts_outcomes_ne_nil_iff (hs : List Happening) :
    prompts (outcomes environment s hs) ≠ [] ↔
      ∃ before h later, hs = before ++ h :: later ∧
        prompts [(after environment s before).step environment h] ≠ [] := by
  induction hs using List.reverseRecOn with
  | nil => simp [outcomes, prompts]
  | append_singleton hs h ih =>
      rw [exists_split_concat_iff
        (p := fun before h _ => prompts [(after environment s before).step environment h] ≠ []),
        ← ih, outcomes_concat, prompts_append, ne_eq, List.append_eq_nil_iff, not_and_or]

/-- A document that is looked after is opened by a report that comes while the session
goes on. -/
theorem opens_after_iff (files : FileTree) (hs : List Happening) :
    let s := after environment ⟨.start, files⟩ hs
    s.Opens h ↔ Going hs ∧
      ∃ d, h.report? = some (.opened d) ∧ s.service.server.effective.covers d.uri = true :=
  and_congr_left' (active_after_iff files hs)

theorem begins_of_startup (id : Rpc.Id) {params : Option Json} {startup : Startup}
    (hparams : params.bind Startup.ofJson? = some startup) :
    (Incoming.message "initialize" (some id) params).begins = true := by
  change (params.bind Startup.ofJson?).isSome = true
  rw [hparams]
  rfl

/-- The settings in force are those that the first request finds which can be served. -/
theorem effective_after_startup (environment : Environment) (files : FileTree)
    {before : List Happening} (hbefore : ∀ h ∈ before, h.begins = false ∧ h.exits = false)
    (id : Rpc.Id) {params : Option Json} {startup : Startup}
    (hparams : params.bind Startup.ofJson? = some startup) (between : List Happening) :
    let start : Session := ⟨.start, files⟩
    let first := Happening.incoming (.message "initialize" (some id) params)
    (start.after environment (before ++ first :: between)).service.server.effective =
      startup.directory?.elim .standard fun directory => .ofSettings
        (Settings.discover (start.after environment before).files directory).settings := by
  intro start first
  have hwaiting : (start.after environment before).service.phase = .waiting :=
    (waiting_after_iff files before).2 hbefore
  have hresult : ((start.after environment before).step environment first).response.isResult =
      true :=
    isResult_of_begins hwaiting (begins_of_startup id hparams)
  obtain ⟨startup', found, hparams', hfound, hbegun⟩ :=
    begun_of_startup (waiting_after (fun _ => rfl) before) rfl hresult
  obtain rfl := Option.some.inj (hparams.symm.trans hparams')
  have hnext : (start.after environment before).next environment first =
      ⟨.begun environment found, (start.after environment before).files⟩ := hbegun
  have hgoing : (Service.begun environment found).phase ≠ .waiting := nofun
  rw [after_append, after_cons, hnext, effective_after hgoing]
  exact hfound

/-- A session asks its question once at most, and it asks it in the step that opens
the first document that is looked after, if the advisory is wanted and is not
dismissed at that moment. No other step asks anything. Documents are heard of from the
first request on until the session ends, and looked after under the settings that this
request finds. -/
theorem prompts_once (environment : Environment) (files : FileTree) (hs : List Happening) :
    let start : Session := ⟨.start, files⟩
    let Calling (before : List Happening) (h : Happening) : Prop :=
      (start.after environment before).Calls environment (Opened environment start before) h
    (prompts (start.outcomes environment hs)).length ≤ 1 ∧
    (prompts (start.outcomes environment hs) ≠ [] ↔
      ∃ before h later, hs = before ++ h :: later ∧ Calling before h) ∧
    (∀ before h, prompts [(start.after environment before).step environment h] ≠ [] ↔
      Calling before h) ∧
    (∀ before h,
      let s := start.after environment before
      s.Opens h ↔ Going before ∧
        ∃ d, h.report? = some (.opened d) ∧ s.service.server.effective.covers d.uri = true) ∧
    ∀ before id params startup between,
      (∀ h ∈ before, h.begins = false ∧ h.exits = false) →
      params.bind Startup.ofJson? = some startup →
      let first := Happening.incoming (.message "initialize" (some id) params)
      ((start.after environment before).step environment first).response.isResult = true ∧
      Going (before ++ [first]) ∧
      (start.after environment (before ++ first :: between)).service.server.effective =
        startup.directory?.elim .standard fun directory => .ofSettings
          (Settings.discover (start.after environment before).files directory).settings := by
  intro start Calling
  have hstep (before : List Happening) (h : Happening) :
      prompts [(start.after environment before).step environment h] ≠ [] ↔ Calling before h := by
    rcases ((advised_after environment files before).1.step h).2 with
      ⟨hcalls, hone⟩ | ⟨hidle, hnone⟩
    · exact iff_of_true (List.ne_nil_of_length_pos (by rw [hone]; exact Nat.one_pos)) hcalls
    · exact iff_of_false (not_not_intro hnone) hidle
  refine ⟨?_, ?_, hstep, fun before h => opens_after_iff files before,
    fun before id params startup between hbefore hparams => ⟨?_, ?_, ?_⟩⟩
  · rcases (advised_after environment files hs).2 with hnone | ⟨-, hone⟩
    · rw [hnone]
      exact Nat.zero_le 1
    · exact Nat.le_of_eq hone
  · simp only [prompts_outcomes_ne_nil_iff, hstep]
  · exact isResult_of_begins ((waiting_after_iff files before).2 hbefore)
      (begins_of_startup id hparams)
  · exact ⟨before, _, [], rfl, hbefore, begins_of_startup id hparams,
      List.forall_mem_nil _⟩
  · exact effective_after_startup environment files hbefore id hparams between

/-- Neither a document that is not looked after nor a change brings the question up, and
it is not asked again for another document. What comes before the first request that can
be served is not heard. -/
theorem prompts_once_among_documents :
    let environment : Environment := ⟨none, none, none⟩
    let start : Session := ⟨.start, .empty⟩
    let refused := Happening.incoming (.message "initialize" (some (.number 0)) none)
    let first := Happening.startup none
    let opened (name : String) := Happening.opened ⟨.atRoot name, "blade", 1, "x"⟩
    let changed := Happening.changed ⟨.atRoot "a.blade.php", 2, ["y"]⟩
    let unheard := [refused, opened "a.blade.php"]
    let before := unheard ++ first :: [opened "a.txt", changed]
    let later := [opened "b.blade.php", Happening.closed (.atRoot "a.blade.php"),
      opened "a.blade.php"]
    let hs := before ++ opened "a.blade.php" :: later
    ((start.after environment unheard).step environment first).response.isResult = true ∧
      Going (unheard ++ [first]) ∧
      (start.after environment before).service.server.effective = .standard ∧
      (prompts (start.outcomes environment hs)).length = 1 ∧ Going before ∧
      (start.after environment before).Calls environment (Opened environment start before)
        (opened "a.blade.php") ∧
      prompts [(start.after environment before).step environment (opened "a.blade.php")] =
        [.prompt 0 (Advisory.message .standard) Advisory.titles] := by
  intro environment start refused first opened changed unheard before later hs
  have hprompt :
      prompts [(start.after environment before).step environment (opened "a.blade.php")] =
        [.prompt 0 (Advisory.message .standard) Advisory.titles] := by
    decide +kernel
  have hunheard : ∀ h ∈ unheard, h.begins = false ∧ h.exits = false := by decide +kernel
  have hparams : (some (Startup.params none)).bind Startup.ofJson? = some ⟨none, none⟩ := by
    decide +kernel
  obtain ⟨hone, hsome, hstep, hopens, hbegins⟩ := prompts_once environment .empty hs
  obtain ⟨hresult, hgoing, heffective⟩ :=
    hbegins unheard (.number 1) _ _ [opened "a.txt", changed] hunheard hparams
  have hcalls := (hstep before (opened "a.blade.php")).1 (by rw [hprompt]; simp)
  have hasked := hsome.2 ⟨before, _, later, rfl, hcalls⟩
  refine ⟨hresult, hgoing, heffective, ?_, ((hopens _ _).1 hcalls.opens).1, hcalls, hprompt⟩
  exact Nat.le_antisymm hone (List.length_pos_iff.2 hasked)

end Bilingual.Session
