import Bilingual.Proofs.Delimiters.Scan
import Bilingual.Proofs.Text.Borders
import Bilingual.Proofs.Text.Returns
import Bilingual.Proofs.Viewport.Order

/-!
The scan of a text with a carriage return in front of each line feed. Delimiters with
neither of them are found where they were before, and so the blocks are the same.
-/

namespace Bilingual

namespace Text

/-- A text that is found on one line, if at all. -/
structure Inline (pattern : List Char) : Prop where
  ne : pattern ≠ []
  no_return : '\r' ∉ pattern
  no_feed : '\n' ∉ pattern

variable {pattern cs rest : List Char} {c : Char} {here start : Nat}

theorem after?_eq_none_of_not_mem (hne : pattern ≠ []) (h : c ∉ pattern) :
    after? pattern (c :: cs) = none := by
  cases pattern with
  | nil => exact absurd rfl hne
  | cons p ps =>
      have hp : p ≠ c := fun he => h (he ▸ List.mem_cons_self)
      rw [after?, if_neg hp]

theorem find?_of_after?_eq_none (h : after? pattern (c :: cs) = none) (here : Nat) :
    find? pattern (c :: cs) here = find? pattern cs (here + c.utf8Size) := by
  rw [find?, h]

theorem after?_withReturns (hreturn : '\r' ∉ pattern) (hfeed : '\n' ∉ pattern) (cs : List Char) :
    after? pattern (withReturns cs) = (after? pattern cs).map withReturns := by
  induction pattern generalizing cs with
  | nil => rfl
  | cons p ps ih =>
      obtain ⟨-, hreturn'⟩ := not_or.1 (mt List.mem_cons.2 hreturn)
      obtain ⟨hp, hfeed'⟩ := not_or.1 (mt List.mem_cons.2 hfeed)
      cases cs with
      | nil => rfl
      | cons c cs =>
          by_cases hc : c = '\n'
          · subst hc
            rw [withReturns_feed, after?_eq_none_of_not_mem (List.cons_ne_nil p ps) hreturn,
              after?_eq_none_of_not_mem (List.cons_ne_nil p ps) hfeed]
            rfl
          · rw [withReturns_cons_of_ne hc, after?, after?]
            split
            · exact ih hreturn' hfeed' cs
            · rfl

namespace Inline

/-- What is passed over in the text is passed over with its carriage return. -/
theorem find?_withReturns_cons (h : Inline pattern) (hnone : after? pattern (c :: cs) = none)
    (here : Nat) :
    find? pattern (withReturns (c :: cs)) here =
      find? pattern (withReturns cs) (here + byteSize (withReturns [c])) := by
  by_cases hc : c = '\n'
  · subst hc
    rw [withReturns_feed, find?_of_after?_eq_none (after?_eq_none_of_not_mem h.ne h.no_return),
      find?_of_after?_eq_none (after?_eq_none_of_not_mem h.ne h.no_feed)]
    rfl
  · have hnone' := after?_withReturns h.no_return h.no_feed (c :: cs)
    rw [hnone, withReturns_cons_of_ne hc] at hnone'
    rw [withReturns_cons_of_ne hc, withReturns_cons_of_ne hc, find?_of_after?_eq_none hnone']
    rfl

theorem find?_nil (h : Inline pattern) (here : Nat) : find? pattern [] here = none := by
  cases pattern with
  | nil => exact absurd rfl h.ne
  | cons p ps => rfl

theorem find?_withReturns_eq_none (h : Inline pattern) (hnone : find? pattern cs here = none)
    (here' : Nat) : find? pattern (withReturns cs) here' = none := by
  induction cs generalizing here here' with
  | nil => exact h.find?_nil here'
  | cons c cs ih =>
      cases hafter : after? pattern (c :: cs) with
      | some rest => cases (find?_of_after? hafter here).symm.trans hnone
      | none =>
          rw [h.find?_withReturns_cons hafter]
          exact ih (by rwa [find?_of_after?_eq_none hafter] at hnone) _

/-- What is found in a text is found at the same place with the carriage returns. -/
theorem find?_withReturns (h : Inline pattern)
    (hfound : find? pattern cs here = some (start, rest)) :
    ∃ before, cs = before ++ (pattern ++ rest) ∧ start = here + byteSize before ∧
      ∀ here', find? pattern (withReturns cs) here' =
        some (here' + byteSize (withReturns before), withReturns rest) := by
  induction cs generalizing here with
  | nil => cases (h.find?_nil here).symm.trans hfound
  | cons c cs ih =>
      cases hafter : after? pattern (c :: cs) with
      | some behind =>
          have hafter' := after?_withReturns h.no_return h.no_feed (c :: cs)
          rw [hafter] at hafter'
          cases (find?_of_after? hafter here).symm.trans hfound
          exact ⟨[], by simpa using after?_eq_some_iff.1 hafter, rfl, find?_of_after? hafter'⟩
      | none =>
          rw [find?_of_after?_eq_none hafter] at hfound
          obtain ⟨before, hsplit, hstart, hmoved⟩ := ih hfound
          have hsize : byteSize (withReturns (c :: before)) =
              byteSize (withReturns [c]) + byteSize (withReturns before) := by
            rw [← byteSize_append, ← withReturns_append]
            rfl
          refine ⟨c :: before, by rw [hsplit]; rfl, by rw [hstart, byteSize_cons, Nat.add_assoc],
            fun here' => ?_⟩
          rw [h.find?_withReturns_cons hafter, hmoved, hsize, Nat.add_assoc]

end Inline

end Text

namespace Delimiters

open Text

variable {d : Delimiters}

/-- Neither delimiter has a carriage return or a line feed. -/
structure Inline (d : Delimiters) : Prop where
  opening_return : '\r' ∉ d.opening.toList
  opening_feed : '\n' ∉ d.opening.toList
  closing_return : '\r' ∉ d.closing.toList
  closing_feed : '\n' ∉ d.closing.toList

theorem Inline.opening (hd : d.Inline) : Text.Inline d.opening.toList :=
  ⟨mt String.toList_eq_nil_iff.1 d.opening_ne, hd.opening_return, hd.opening_feed⟩

theorem Inline.closing (hd : d.Inline) : Text.Inline d.closing.toList :=
  ⟨mt String.toList_eq_nil_iff.1 d.closing_ne, hd.closing_return, hd.closing_feed⟩

/-- The blocks of what stands behind `before` are the same in both texts. -/
theorem scanFrom_withReturns (hd : d.Inline) {whole : List Char} (before : List Char)
    {cs : List Char} {here : Nat} (hsplit : whole = before ++ cs) (hhere : byteSize before = here) :
    List.Forall₂ (Region.Related (Moves whole)) (d.scanFrom cs here)
      (d.scanFrom (withReturns cs) (byteSize (withReturns before))) := by
  fun_induction d.scanFrom cs here generalizing before with
  | case1 cs here ho =>
      rw [scanFrom_of_unopened (hd.opening.find?_withReturns_eq_none ho _)]
      exact .nil
  | case2 cs here start body ho hc =>
      obtain ⟨front, -, -, hopen⟩ := hd.opening.find?_withReturns ho
      rw [scanFrom_of_unclosed (hopen _) (hd.closing.find?_withReturns_eq_none hc _)]
      exact .nil
  | case3 cs here start body ho inner rest hc ih =>
      obtain ⟨front, hcs, hstart, hopen⟩ := hd.opening.find?_withReturns ho
      obtain ⟨between, hbody, hinner, hclose⟩ := hd.closing.find?_withReturns hc
      let behind := before ++ front ++ d.opening.toList ++ between ++ d.closing.toList
      have hopened : byteSize (before ++ front) = start := by
        rw [byteSize_append, hhere, hstart]
      have hopened' : byteSize (withReturns (before ++ front)) =
          byteSize (withReturns before) + byteSize (withReturns front) := by
        rw [withReturns_append, byteSize_append]
      have hclosed : byteSize behind = inner + d.closing.utf8ByteSize := by
        simp only [behind, byteSize_append, byteSize_toList, hhere, hinner, hstart]
      have hclosed' : byteSize (withReturns behind) =
          byteSize (withReturns before) + byteSize (withReturns front) +
            d.opening.utf8ByteSize + byteSize (withReturns between) + d.closing.utf8ByteSize := by
        simp only [behind, withReturns_append, withReturns_of_not_mem hd.opening_feed,
          withReturns_of_not_mem hd.closing_feed, byteSize_append, byteSize_toList]
      have hwhole : whole = behind ++ rest := by
        rw [hsplit, hcs, hbody]
        simp only [behind, List.append_assoc]
      have hrest := ih behind hwhole hclosed
      rw [hclosed'] at hrest
      rw [scanFrom_of_block (hopen _) (hclose _)]
      refine .cons ⟨⟨before ++ front, d.opening.toList ++ body, ?_, hopened, hopened'⟩,
        ⟨behind, rest, hwhole, hclosed, hclosed'⟩⟩ hrest
      rw [hsplit, hcs, List.append_assoc]

theorem scan_returned (hd : d.Inline) (text : String) :
    List.Forall₂ (Region.Related (Moves text.toList)) (d.scan text) (d.scan (returned text)) := by
  rw [scan, scan, toList_returned]
  exact scanFrom_withReturns hd [] rfl rfl

end Delimiters

end Bilingual
