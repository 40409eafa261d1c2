import Bilingual.Proofs.Text.Columns
import Bilingual.Proofs.Text.Occurrence

/-!
Lines of a text, told by the ways to split it. What stands in front of a line ends
with a line feed, what stands behind it begins with one, and there is none in it.
-/

namespace Bilingual

namespace Text

/-- The text `cs` has `content` as a line, with `number` line feeds in front of it. -/
structure IsLine (cs : List Char) (number : Nat) (before content after : List Char) : Prop where
  split : cs = before ++ (content ++ after)
  number_eq : before.count '\n' = number
  opens : ∀ c ∈ before.getLast?, c = '\n'
  whole : '\n' ∉ content
  closes : ∀ c ∈ after.head?, c = '\n'

/-- Offsets of the line feeds of the text `cs`, which begins at offset `here`. -/
def feedsFrom : List Char → Nat → List Nat
  | [], _ => []
  | c :: cs, here =>
      if c = '\n' then here :: feedsFrom cs (here + c.utf8Size)
      else feedsFrom cs (here + c.utf8Size)

/-- Offsets where lines start: at the head of the text and behind each line feed. -/
def lineStarts (cs : List Char) : List Nat :=
  0 :: (feedsFrom cs 0).map (· + 1)

variable {cs before content after line rest : List Char} {number : Nat}

@[simp] theorem utf8Size_feed : '\n'.utf8Size = 1 := rfl

/-- A text is a single line, or a line with a text behind its line feed. -/
@[elab_as_elim]
theorem lineInduction {motive : List Char → Prop} (last : ∀ cs, '\n' ∉ cs → motive cs)
    (next : ∀ line rest, '\n' ∉ line → motive rest → motive (line ++ '\n' :: rest))
    (cs : List Char) : motive cs := by
  by_cases h : '\n' ∈ cs
  · obtain ⟨line, rest, hcs, hline⟩ := List.eq_append_cons_of_mem h
    have : rest.length < cs.length := by
      simp [hcs]
      omega
    exact hcs ▸ next line rest hline (lineInduction last next rest)
  · exact last cs h
termination_by cs.length

theorem ne_feed_of_mem (h : '\n' ∉ content) : ∀ c ∈ content, decide (c ≠ '\n') = true :=
  fun _ hc => decide_eq_true fun he => h (he ▸ hc)

theorem takeWhile_line (hwhole : '\n' ∉ content) (hcloses : ∀ c ∈ after.head?, c = '\n') :
    (content ++ after).takeWhile (· ≠ '\n') = content := by
  rw [List.takeWhile_append_of_pos (ne_feed_of_mem hwhole)]
  cases after with
  | nil => simp
  | cons c rest => simp [hcloses c rfl]

theorem dropWhile_line (hwhole : '\n' ∉ content) (hcloses : ∀ c ∈ after.head?, c = '\n') :
    (content ++ after).dropWhile (· ≠ '\n') = after := by
  rw [List.dropWhile_append_of_pos (ne_feed_of_mem hwhole)]
  cases after with
  | nil => rfl
  | cons c rest => simp [hcloses c rfl]

theorem feedsFrom_append (h : '\n' ∉ line) (rest : List Char) (here : Nat) :
    feedsFrom (line ++ rest) here = feedsFrom rest (here + byteSize line) := by
  induction line generalizing here with
  | nil => rfl
  | cons c line ih =>
      obtain ⟨hc, hline⟩ := not_or.1 (mt List.mem_cons.2 h)
      rw [List.cons_append, feedsFrom, if_neg (Ne.symm hc), ih hline, byteSize_cons, Nat.add_assoc]

theorem length_feedsFrom (cs : List Char) (here : Nat) :
    (feedsFrom cs here).length = cs.count '\n' := by
  induction cs generalizing here with
  | nil => rfl
  | cons c cs ih =>
      rw [feedsFrom, List.count_cons]
      split
      · next hc => simp [ih, hc]
      · next hc => simp [ih, hc]

/-- There is one line more than there are line feeds. -/
theorem length_lineStarts (cs : List Char) : (lineStarts cs).length = cs.count '\n' + 1 := by
  rw [lineStarts, List.length_cons, List.length_map, length_feedsFrom]

namespace IsLine

theorem last (h : '\n' ∉ cs) : IsLine cs 0 [] cs [] :=
  ⟨by simp, rfl, by simp, h, by simp⟩

theorem first (h : '\n' ∉ line) : IsLine (line ++ '\n' :: rest) 0 [] line ('\n' :: rest) :=
  ⟨rfl, rfl, by simp, h, by simp⟩

theorem next (h : IsLine rest number before content after) (hline : '\n' ∉ line) :
    IsLine (line ++ '\n' :: rest) (number + 1) (line ++ '\n' :: before) content after := by
  refine ⟨by simp [h.split], by simp [h.number_eq, List.count_eq_zero.2 hline], ?_, h.whole,
    h.closes⟩
  cases before with
  | nil => simp
  | cons c before => simpa using h.opens

theorem before_cases (h : IsLine cs number before content after) : before = [] ∨ '\n' ∈ before := by
  rcases before.eq_nil_or_concat with rfl | ⟨front, c, rfl⟩
  · exact Or.inl rfl
  · obtain rfl := h.opens c (by simp)
    exact Or.inr (by simp)

theorem after_cases (h : IsLine cs number before content after) :
    after = [] ∨ ∃ rest, after = '\n' :: rest := by
  cases after with
  | nil => exact Or.inl rfl
  | cons c rest =>
      obtain rfl := h.closes c rfl
      exact Or.inr ⟨rest, rfl⟩

/-- A text without line feeds has itself as its only line. -/
theorem eq_of_not_mem (h : IsLine cs number before content after) (hcs : '\n' ∉ cs) :
    number = 0 ∧ before = [] ∧ content = cs ∧ after = [] := by
  obtain rfl := h.split
  obtain rfl | hbefore := h.before_cases
  · obtain rfl | ⟨rest, rfl⟩ := h.after_cases
    · exact ⟨h.number_eq.symm, rfl, by simp, rfl⟩
    · exact absurd (by simp) hcs
  · exact absurd (by simp [hbefore]) hcs

/-- A line is the first one, or it is a line of what stands behind the first. -/
theorem cases_append (h : IsLine (line ++ '\n' :: rest) number before content after)
    (hline : '\n' ∉ line) :
    (number = 0 ∧ before = [] ∧ content = line ∧ after = '\n' :: rest) ∨
      ∃ number' before', number = number' + 1 ∧ before = line ++ '\n' :: before' ∧
        IsLine rest number' before' content after := by
  obtain rfl | hbefore := h.before_cases
  · have htake := takeWhile_line h.whole h.closes
    have hdrop := dropWhile_line h.whole h.closes
    rw [← List.nil_append (content ++ after), ← h.split] at htake hdrop
    rw [takeWhile_line hline (by simp)] at htake
    rw [dropWhile_line hline (by simp)] at hdrop
    exact Or.inl ⟨h.number_eq.symm, rfl, htake.symm, hdrop.symm⟩
  · -- What stands in front has a line feed, so it reaches beyond the first line.
    rcases List.append_eq_append_iff.1 h.split with ⟨front, rfl, hrest⟩ | ⟨front, rfl, -⟩
    · cases front with
      | nil => exact absurd (by simpa using hbefore) hline
      | cons c front =>
          obtain ⟨rfl, htail⟩ := List.cons.inj hrest
          refine Or.inr ⟨front.count '\n', front, ?_, rfl, htail, rfl, ?_, h.whole, h.closes⟩
          · simpa [List.count_eq_zero.2 hline] using h.number_eq.symm
          · cases front with
            | nil => simp
            | cons c front => simpa using h.opens
    · exact absurd (List.mem_append_left _ hbefore) hline

/-- Where a line starts, in a text that begins at offset `here`. -/
theorem getElem?_feedsFrom (h : IsLine cs number before content after) (here : Nat) :
    (here :: (feedsFrom cs here).map (· + 1))[number]? = some (here + byteSize before) := by
  induction cs using lineInduction generalizing here number before with
  | last cs hcs =>
      obtain ⟨rfl, rfl, -, -⟩ := h.eq_of_not_mem hcs
      simp
  | next line rest hline ih =>
      rw [feedsFrom_append hline, feedsFrom, if_pos rfl, List.map_cons]
      rcases h.cases_append hline with ⟨rfl, rfl, -, -⟩ | ⟨number', before', rfl, rfl, hrest⟩
      · simp
      · have hstart : here + byteSize line + 1 + byteSize before' =
            here + byteSize (line ++ '\n' :: before') := by
          rw [byteSize_append, byteSize_cons, utf8Size_feed]
          omega
        rw [List.getElem?_cons_succ, utf8Size_feed, ih hrest, hstart]

theorem getElem?_lineStarts (h : IsLine cs number before content after) :
    (lineStarts cs)[number]? = some (byteSize before) := by
  rw [lineStarts, h.getElem?_feedsFrom 0, Nat.zero_add]

end IsLine

theorem exists_isLine (h : number ≤ cs.count '\n') :
    ∃ before content after, IsLine cs number before content after := by
  induction cs using lineInduction generalizing number with
  | last cs hcs =>
      obtain rfl : number = 0 := by simpa [List.count_eq_zero.2 hcs] using h
      exact ⟨[], cs, [], .last hcs⟩
  | next line rest hline ih =>
      cases number with
      | zero => exact ⟨[], line, '\n' :: rest, .first hline⟩
      | succ number =>
          have hle : number ≤ rest.count '\n' := by simpa [List.count_eq_zero.2 hline] using h
          obtain ⟨before, content, after, hrest⟩ := ih hle
          exact ⟨line ++ '\n' :: before, content, after, hrest.next hline⟩

/-- The text in front of the first line feed, and what stands behind it. -/
theorem exists_first (cs : List Char) :
    ∃ content after, cs = content ++ after ∧ '\n' ∉ content ∧ ∀ c ∈ after.head?, c = '\n' := by
  induction cs using lineInduction with
  | last cs h => exact ⟨cs, [], by simp, h, by simp⟩
  | next line rest h _ => exact ⟨line, '\n' :: rest, rfl, h, by simp⟩

/-- A place behind a line feed, or at the start, has a line to the right of it. -/
theorem exists_isLine_append (hopens : ∀ c ∈ before.getLast?, c = '\n') (hline : '\n' ∉ line)
    (rest : List Char) :
    ∃ more after,
      IsLine (before ++ (line ++ rest)) (before.count '\n') before (line ++ more) after := by
  obtain ⟨more, after, rfl, hmore, hcloses⟩ := exists_first rest
  exact ⟨more, after, by simp, rfl, hopens, by simp [hline, hmore], hcloses⟩

/-- Behind a line there is nothing, or the next line starts behind its line feed. -/
theorem IsLine.last_or_next (h : IsLine cs number before content after) :
    (after = [] ∧ number = cs.count '\n') ∨
      ∃ content' after', IsLine cs (number + 1) (before ++ (content ++ ['\n'])) content' after' := by
  have hcount := List.count_eq_zero.2 h.whole
  obtain rfl | ⟨rest, rfl⟩ := h.after_cases
  · exact Or.inl ⟨rfl, by simp [h.split, h.number_eq, hcount]⟩
  · have hopens : ∀ c ∈ (before ++ (content ++ ['\n'])).getLast?, c = '\n' := by simp
    have hnumber : (before ++ (content ++ ['\n'])).count '\n' = number + 1 := by
      simp [h.number_eq, hcount]
    obtain ⟨content', after', hnext⟩ := exists_isLine_append hopens List.not_mem_nil rest
    rw [hnumber] at hnext
    exact Or.inr ⟨_, after', by simpa [h.split] using hnext⟩

theorem getElem?_lineStarts_eq_none_iff :
    (lineStarts cs)[number]? = none ↔ cs.count '\n' < number := by
  rw [List.getElem?_eq_none_iff, length_lineStarts, Nat.succ_le_iff]

/-- A line reaches up to the byte in front of the next start, or to the end. -/
theorem IsLine.stop_eq (h : IsLine cs number before content after) :
    (lineStarts cs)[number + 1]? = none ∧ byteSize before + byteSize content = byteSize cs ∨
      (lineStarts cs)[number + 1]? = some (byteSize before + byteSize content + 1) := by
  rcases h.last_or_next with ⟨rfl, hlast⟩ | ⟨content', after', hnext⟩
  · left
    rw [getElem?_lineStarts_eq_none_iff]
    exact ⟨by omega, by simp [h.split]⟩
  · right
    rw [hnext.getElem?_lineStarts]
    simp [Nat.add_assoc]

variable {text front back : String} {p : text.Pos} {c : Char}

theorem offset_of_splits (h : p.Splits front back) : p.offset.byteIdx = byteSize front.toList := by
  rw [h.offset_eq_rawEndPos, String.byteIdx_rawEndPos, byteSize_toList]

theorem splits_of_offset (ht : text.toList = before ++ after)
    (h : p.offset.byteIdx = byteSize before) :
    p.Splits (String.ofList before) (String.ofList after) where
  eq_append := by rw [← String.ofList_append, ← ht, String.ofList_toList]
  offset_eq_rawEndPos := by
    rw [String.Pos.Raw.ext_iff, String.byteIdx_rawEndPos, ← byteSize_toList, String.toList_ofList, h]

theorem eq_endPos_of_splits (h : p.Splits front back) (hback : back.toList = []) :
    p = text.endPos :=
  h.eq_endPos_iff.2 (String.toList_eq_nil_iff.1 hback)

/-- The place behind the character that stands behind a place. -/
theorem exists_next (h : p.Splits front back) (hback : back.toList = c :: cs) :
    ∃ (hp : p ≠ text.endPos) (front' back' : String), p.get hp = c ∧
      (p.next hp).Splits front' back' ∧ back'.toList = cs ∧
      byteSize front'.toList = byteSize front.toList + c.utf8Size := by
  have hp : p ≠ text.endPos := by
    intro heq
    rw [h.eq_endPos_iff.1 heq] at hback
    cases hback
  obtain ⟨rest, rfl⟩ := h.exists_eq_singleton_append hp
  rw [String.toList_append, String.toList_singleton, List.singleton_append] at hback
  obtain ⟨hc, hrest⟩ := List.cons.inj hback
  exact ⟨hp, _, rest, hc, h.next, hrest, by simp [hc]⟩

/-- The places where lines start have the offsets that lines have. -/
theorem offsets_startsFrom (h : p.Splits front back) (hback : back.toList = cs)
    (starts : Array text.Pos) :
    (startsFrom p starts).toList.map (·.offset.byteIdx) =
      starts.toList.map (·.offset.byteIdx) ++
        (feedsFrom cs (byteSize front.toList)).map (· + 1) := by
  induction cs generalizing front back p starts with
  | nil =>
      rw [startsFrom, dif_pos (eq_endPos_of_splits h hback)]
      simp [feedsFrom]
  | cons c cs ih =>
      obtain ⟨hp, front', back', hc, hnext, hback', hfront'⟩ := exists_next h hback
      rw [startsFrom, dif_neg hp, ih hnext hback', hfront', hc, feedsFrom]
      split
      · next hfeed =>
          subst hfeed
          simp [offset_of_splits h, hc]
      · rfl

/-- Going through the places of a line finds the column among its characters. -/
theorem columnFrom_of_splits (h : p.Splits front back) (hback : back.toList = content ++ after)
    (character column : UInt32) :
    columnFrom character (byteSize front.toList + byteSize content) p column =
      columnOffset character content (byteSize front.toList) column := by
  induction content generalizing front back p column with
  | nil =>
      rw [columnFrom, offset_of_splits h]
      split
      · rfl
      · exact if_pos (Nat.le_refl _)
  | cons c content ih =>
      obtain ⟨hp, front', back', hc, hnext, hback', hfront'⟩ := exists_next h hback
      have hrest := ih hnext hback' (column + units c)
      rw [hfront', Nat.add_assoc] at hrest
      have hpos := c.utf8Size_pos
      rw [columnFrom, dif_neg hp, offset_of_splits h, byteSize_cons, if_neg (by omega), hc, hrest]
      rfl

end Text

namespace LinedText

open Text

variable {text : String} {p : Position} {before content after : List Char} {number : Nat}

theorem offsets_starts (text : String) :
    (ofText text).starts.toList.map (·.offset.byteIdx) = lineStarts text.toList := by
  have h := offsets_startsFrom text.splits_startPos rfl #[text.startPos]
  simpa [lineStarts] using! h

theorem getElem?_starts (text : String) (number : Nat) :
    (ofText text).starts[number]?.map (·.offset.byteIdx) = (lineStarts text.toList)[number]? := by
  rw [← offsets_starts, List.getElem?_map, Array.getElem?_toList]

theorem stop_of_isLine (h : IsLine text.toList number before content after) :
    (ofText text).stop number = byteSize before + byteSize content := by
  have hnext := getElem?_starts text (number + 1)
  rw [stop]
  rcases h.stop_eq with ⟨hnone, hsize⟩ | hsome
  · rw [hnone, Option.map_eq_none_iff] at hnext
    rw [hnext, hsize, byteSize_toList]
    rfl
  · rw [hsome] at hnext
    obtain ⟨next, hnext, hoffset⟩ := Option.map_eq_some_iff.1 hnext
    rw [hnext]
    exact congrArg (· - 1) hoffset

theorem offset?_eq_none_iff :
    (ofText text).offset? p = none ↔ text.toList.count '\n' < p.line.toNat := by
  rw [← getElem?_lineStarts_eq_none_iff, ← getElem?_starts, Option.map_eq_none_iff, offset?,
    Option.map_eq_none_iff]

theorem offset?_of_isLine (h : IsLine text.toList p.line.toNat before content after) :
    (ofText text).offset? p =
      some (columnOffset p.character content (byteSize before) 0) := by
  have hstart := getElem?_starts text p.line.toNat
  rw [h.getElem?_lineStarts] at hstart
  obtain ⟨start, hstart, hoffset⟩ := Option.map_eq_some_iff.1 hstart
  have hsplits := splits_of_offset h.split hoffset
  have hcolumn := columnFrom_of_splits hsplits String.toList_ofList p.character 0
  rw [String.toList_ofList] at hcolumn
  rw [offset?, hstart, stop_of_isLine h, Option.map_some]
  exact congrArg some hcolumn

end LinedText

end Bilingual
