import Bilingual.Advisory
import Bilingual.Proofs.Delimiters.Distinct

/-!
The delimiters that the advisory names against those in use. They are the same exactly
where the ones that are set can be used. Where they cannot, the standard ones are in use,
and the advisory still names those that are set. Which pairs a matcher can be built for
makes no difference to this, as long as the standard one is among them.
-/

namespace Bilingual

namespace Delimiters

variable {builds : String → String → Bool} {opening closing : String} {d : Delimiters} {e : Error}

theorem of_ofStringsIf_eq_ok (h : ofStringsIf builds opening closing = .ok d) :
    d.opening = opening ∧ d.closing = closing := by
  unfold ofStringsIf at h
  split at h
  · cases h
  · split at h
    · cases h
    · split at h
      · cases h
        exact ⟨rfl, rfl⟩
      · cases h

theorem exists_ofStringsIf_eq_ok_iff :
    (∃ d, ofStringsIf builds opening closing = .ok d) ↔
      opening ≠ "" ∧ closing ≠ "" ∧ builds opening closing = true := by
  unfold ofStringsIf
  split
  · next ho => simp [ho]
  · next ho =>
      split
      · next hc => simp [hc]
      · next hc => split <;> simp_all

theorem ofStringsIf_standard (h : builds defaultOpening defaultClosing = true) :
    ofStringsIf builds standard.opening standard.closing = .ok standard := by
  rw [ofStringsIf, dif_neg standard.opening_ne, dif_neg standard.closing_ne]
  exact if_pos h

end Delimiters

namespace Config

variable {builds : String → String → Bool} {config : Config} {d : Delimiters}
  {e : Delimiters.Error}

theorem usableDelimitersIf_of_ok (h : config.delimitersIf builds = .ok d) :
    (config.usableDelimitersIf builds).1 = d := by
  rw [usableDelimitersIf, h]

theorem usableDelimitersIf_of_error (h : config.delimitersIf builds = .error e) :
    (config.usableDelimitersIf builds).1 = .standard := by
  rw [usableDelimitersIf, h]

/-- A pair that is refused is not the standard one. -/
theorem not_standard_of_error
    (hstandard : builds Delimiters.defaultOpening Delimiters.defaultClosing = true)
    (h : config.delimitersIf builds = .error e) :
    ¬ (Delimiters.standard.opening = config.openDelimiter ∧
      Delimiters.standard.closing = config.closeDelimiter) := by
  rintro ⟨hopening, hclosing⟩
  rw [delimitersIf, ← hopening, ← hclosing, Delimiters.ofStringsIf_standard hstandard] at h
  cases h

end Config

namespace Advisory

/-- The delimiters stand in the advisory between words that do not depend on them. -/
theorem message_eq (config : Config) :
    ∃ front back, ∀ opening closing,
      message { config with openDelimiter := opening, closeDelimiter := closing } =
        front ++ (opening ++ "..." ++ closing ++ back) := by
  refine ⟨"The language of " ++ config.fileSuffix ++
    " files now follows the cursor and viewport: ", " blocks are treated as " ++
    config.scriptLanguage ++ ", everything else as " ++ config.templateLanguage ++ ".",
    fun opening closing => ?_⟩
  unfold message
  dsimp only
  simp only [String.append_assoc]

/-- The advisory has the words that it would have if this pair were set. -/
def Names (config : Config) (opening closing : String) : Prop :=
  message config = message { config with openDelimiter := opening, closeDelimiter := closing }

variable {config : Config} {opening closing : String}

theorem names_iff :
    Names config opening closing ↔
      config.openDelimiter ++ "..." ++ config.closeDelimiter = opening ++ "..." ++ closing := by
  obtain ⟨front, back, hmessage⟩ := message_eq config
  have hset : message config =
      front ++ (config.openDelimiter ++ "..." ++ config.closeDelimiter ++ back) :=
    hmessage config.openDelimiter config.closeDelimiter
  rw [Names, hset, hmessage, String.append_right_inj, String.append_left_inj]

/-- What stands in front of the first dot. -/
theorem takeWhile_dots {opening : String} (h : '.' ∉ opening.toList) (rest : List Char) :
    (opening.toList ++ ("...".toList ++ rest)).takeWhile (· ≠ '.') = opening.toList := by
  rw [List.takeWhile_append_of_pos fun c hc => decide_eq_true (ne_of_mem_of_not_mem hc h)]
  exact List.append_nil _

/-- A pair without dots is named only if it is the one that is set: there is no dot
besides those in the middle. -/
theorem eq_of_names (h : Names config opening closing) (hopening : '.' ∉ opening.toList)
    (hclosing : '.' ∉ closing.toList) :
    opening = config.openDelimiter ∧ closing = config.closeDelimiter := by
  have heq := congrArg String.toList (names_iff.1 h)
  simp only [String.toList_append, List.append_assoc] at heq
  have hset : '.' ∉ config.openDelimiter.toList := by
    have hcount := congrArg (List.count '.') heq
    simp only [List.count_append, List.count_eq_zero_of_not_mem hopening,
      List.count_eq_zero_of_not_mem hclosing] at hcount
    rw [← List.count_eq_zero]
    omega
  have hfront : config.openDelimiter.toList = opening.toList := by
    have := congrArg (List.takeWhile (· ≠ '.')) heq
    rwa [takeWhile_dots hset, takeWhile_dots hopening] at this
  rw [hfront, List.append_cancel_left_eq, List.append_cancel_left_eq] at heq
  exact ⟨String.toList_inj.1 hfront.symm, String.toList_inj.1 heq.symm⟩

end Advisory

/-- The advisory names the delimiters in use exactly where those that are set can be used,
and where they cannot no scan for the named ones does what is done. Those that can be used
are searched for and nothing else is: the blocks found are the ones that they open and
close. In the place of others the standard ones are in use. -/
theorem advisory_names_usable_delimiters (builds : String → String → Bool)
    (hstandard : builds Delimiters.defaultOpening Delimiters.defaultClosing = true)
    (config : Config) :
    let used := (config.usableDelimitersIf builds).1
    (Advisory.Names config used.opening used.closing ↔ ∃ d, config.delimitersIf builds = .ok d) ∧
    ((∃ d : Delimiters, d.opening = config.openDelimiter ∧ d.closing = config.closeDelimiter ∧
      ∀ text, d.scan text = used.scan text) ↔ ∃ d, config.delimitersIf builds = .ok d) ∧
    (∀ d, config.delimitersIf builds = .ok d →
      d.opening = config.openDelimiter ∧ d.closing = config.closeDelimiter ∧
      ∀ text, (∀ rs, d.Blocks text 0 rs ↔ rs = used.scan text) ∧
        ∀ r ∈ used.scan text, Text.OccursAt config.openDelimiter text r.start ∧
          Text.EndsAt config.closeDelimiter text r.stop) ∧
    ((∃ d, config.delimitersIf builds = .ok d) ↔ config.openDelimiter ≠ "" ∧
      config.closeDelimiter ≠ "" ∧ builds config.openDelimiter config.closeDelimiter = true) ∧
    ∀ e, config.delimitersIf builds = .error e → used = .standard := by
  intro used
  have hiff : (∃ d, config.delimitersIf builds = .ok d) ↔ config.openDelimiter ≠ "" ∧
      config.closeDelimiter ≠ "" ∧ builds config.openDelimiter config.closeDelimiter = true :=
    Delimiters.exists_ofStringsIf_eq_ok_iff
  cases h : config.delimitersIf builds with
  | ok d =>
      have hused : used = d := Config.usableDelimitersIf_of_ok h
      obtain ⟨hopening, hclosing⟩ : d.opening = config.openDelimiter ∧
          d.closing = config.closeDelimiter :=
        Delimiters.of_ofStringsIf_eq_ok h
      rw [h] at hiff
      refine ⟨⟨fun _ => ⟨d, rfl⟩, fun _ => ?_⟩, ⟨fun _ => ⟨d, rfl⟩, fun _ => ?_⟩, ?_, hiff, nofun⟩
      · rw [hused, hopening, hclosing]
        rfl
      · exact ⟨d, hopening, hclosing, fun text => by rw [hused]⟩
      · rintro d' ⟨⟩
        refine ⟨hopening, hclosing, fun text => ?_⟩
        have hblocks := d.blocks_scan text
        rw [hused, ← hopening, ← hclosing]
        exact ⟨fun rs => ⟨fun hrs => hrs.unique hblocks, fun hrs => hrs ▸ hblocks⟩, fun r hr =>
          ⟨(hblocks.isBlock r hr).1.opens, (hblocks.isBlock r hr).1.closes⟩⟩
  | error e =>
      have hused : used = .standard := Config.usableDelimitersIf_of_error h
      have hother := Config.not_standard_of_error hstandard h
      rw [h] at hiff
      refine ⟨⟨fun hnames => ?_, nofun⟩, ⟨?_, nofun⟩, nofun, hiff, fun _ _ => hused⟩
      · rw [hused] at hnames
        exact absurd (Advisory.eq_of_names hnames (by decide) (by decide)) hother
      · rintro ⟨d, hopening, hclosing, hscan⟩
        obtain rfl : d = .standard :=
          Delimiters.eq_of_scan_eq fun text => (hscan text).trans (by rw [hused])
        exact absurd ⟨hopening, hclosing⟩ hother

/-- Other delimiters are named and searched for. Without a closing side they are not. -/
theorem advisory_names_usable_delimiters_of_percent_signs :
    let custom : Config := { Config.standard with openDelimiter := "<%", closeDelimiter := "%>" }
    let d : Delimiters := ⟨"<%", "%>", by decide, by decide⟩
    let halved : Config := { Config.standard with openDelimiter := "<%", closeDelimiter := "" }
    Delimiters.fits Delimiters.defaultOpening Delimiters.defaultClosing = true ∧
      custom.delimiters = .ok d ∧ Advisory.Names custom d.opening d.closing ∧
      d.Blocks "<?php ?> <% %>" 0 [⟨9, 14⟩] ∧
      halved.delimiters = .error .emptyClosing ∧ halved.usableDelimiters.1 = .standard := by
  intro custom d halved
  have hfits : Delimiters.fits Delimiters.defaultOpening Delimiters.defaultClosing = true := by
    decide
  have hok : custom.delimiters = .ok d := by rfl
  have herror : halved.delimiters = .error .emptyClosing := by rfl
  obtain ⟨hnames, -, hblocks, -⟩ := advisory_names_usable_delimiters Delimiters.fits hfits custom
  obtain ⟨-, -, -, -, hstandard⟩ := advisory_names_usable_delimiters Delimiters.fits hfits halved
  have hused : (custom.usableDelimitersIf Delimiters.fits).1 = d :=
    Config.usableDelimitersIf_of_ok hok
  obtain ⟨-, -, hscan⟩ := hblocks d hok
  refine ⟨hfits, hok, hused ▸ hnames.2 ⟨d, hok⟩, ((hscan _).1 _).2 ?_, herror,
    hstandard _ herror⟩
  rw [hused]
  decide +kernel

/-- The advisory promises blocks that are not found, and says nothing of those that are. -/
theorem advisory_names_refused_delimiters :
    let config : Config := { Config.standard with openDelimiter := "<%", closeDelimiter := "" }
    let used := config.usableDelimiters.1
    (¬ ∀ (config : Config) (text : String), ∀ r ∈ config.usableDelimiters.1.scan text,
      Text.OccursAt config.openDelimiter text r.start) ∧
    ¬ Advisory.Names config used.opening used.closing ∧
    Advisory.message config = "The language of .blade.php files now follows the cursor and " ++
      "viewport: <%... blocks are treated as php, everything else as blade." ∧
    used.scan "<% ?> <?php ?>" = [⟨6, 14⟩] := by
  intro config used
  have hused : used = .standard :=
    Config.usableDelimitersIf_of_error (show config.delimiters = .error .emptyClosing by rfl)
  have hscan : used.scan "<% ?> <?php ?>" = [⟨6, 14⟩] := by
    rw [hused]
    decide +kernel
  refine ⟨fun hopens => ?_, ?_, by decide +kernel, hscan⟩
  · have hoccurs := hopens config "<% ?> <?php ?>" ⟨6, 14⟩ (hscan ▸ List.mem_singleton_self _)
    exact absurd hoccurs (by unfold Text.OccursAt; decide +kernel)
  · rw [hused]
    intro hnames
    exact absurd (Advisory.eq_of_names hnames (by decide) (by decide)).2 (by decide)

end Bilingual
