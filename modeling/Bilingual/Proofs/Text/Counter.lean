import Mathlib.Tactic.ByContra
import Bilingual.Proofs.Text.Lines

/-!
The counter of columns, which has 32 bits. It is large enough for every column but the
last one, 4294967295: there a pair of units right in front of the column makes it go
round, and the search goes on as if the line began behind the pair.
-/

namespace Bilingual

namespace Text

/-- The search for a column with a counter that has no bound. -/
def unboundedOffset (character : Nat) : List Char → Nat → Nat → Nat
  | [], here, _ => here
  | c :: cs, here, column =>
      if character ≤ column then here
      else unboundedOffset character cs (here + c.utf8Size) (column + (units c).toNat)

/-- What the counter would have to hold at each step of the search for a column. -/
def sums (character : UInt32) : List Char → UInt32 → List Nat
  | [], _ => []
  | c :: cs, column =>
      if character ≤ column then []
      else (column.toNat + (units c).toNat) :: sums character cs (column + units c)

/-- The column is the last one, and the character `c` has one of its two units in front
of it and one behind. -/
structure Straddles (character : UInt32) (content front : List Char) (c : Char)
    (more : List Char) : Prop where
  last : character.toNat + 1 = 2 ^ 32
  split : content = front ++ c :: more
  reached : unitSize front + 2 = 2 ^ 32
  pair : (units c).toNat = 2

variable {character column : UInt32} {c : Char} {cs front more content : List Char}
  {limit count : Nat}

theorem lt_of_not_reached (h : ¬ character ≤ column) : column.toNat < character.toNat :=
  Nat.lt_of_not_le fun hle => h (UInt32.le_iff_toNat_le.2 hle)

theorem not_reached_of_lt (h : column.toNat < character.toNat) : ¬ character ≤ column :=
  fun hle => Nat.not_le.2 h (UInt32.le_iff_toNat_le.1 hle)

theorem unitSize_letters (letters : Nat) : unitSize (List.replicate letters 'a') = letters := by
  induction letters with
  | zero => rfl
  | succ letters ih =>
      rw [List.replicate_succ, unitSize_cons, ih]
      exact Nat.add_comm 1 letters

theorem byteSize_letters (letters : Nat) : byteSize (List.replicate letters 'a') = letters := by
  induction letters with
  | zero => rfl
  | succ letters ih =>
      rw [List.replicate_succ, byteSize_cons, ih]
      exact Nat.add_comm 1 letters

theorem byteSize_concat (front : List Char) (c : Char) :
    byteSize (front ++ [c]) = byteSize front + c.utf8Size := by
  simp

theorem units_le_two (c : Char) : (units c).toNat ≤ 2 := by
  have := units_toNat c
  omega

/-- A counter that holds all sums makes no difference to the search. -/
theorem columnOffset_eq_unboundedOffset (h : ∀ sum ∈ sums character cs column, sum < 2 ^ 32)
    (here : Nat) :
    columnOffset character cs here column =
      unboundedOffset character.toNat cs here column.toNat := by
  induction cs generalizing here column with
  | nil => rfl
  | cons c cs ih =>
      rw [columnOffset, unboundedOffset]
      by_cases hreached : character ≤ column
      · rw [if_pos hreached, if_pos (UInt32.le_iff_toNat_le.1 hreached)]
      · rw [sums, if_neg hreached, List.forall_mem_cons] at h
        rw [if_neg hreached, if_neg (Nat.not_le.2 (lt_of_not_reached hreached)), ih h.2,
          toNat_add_units c h.1]

/-- A sum is too large only where a pair of units is passed right in front of the last
column. -/
theorem exists_split_of_sum (h : ∃ sum ∈ sums character cs column, 2 ^ 32 ≤ sum) :
    character.toNat + 1 = 2 ^ 32 ∧ ∃ front c more, cs = front ++ c :: more ∧
      column.toNat + unitSize front + 2 = 2 ^ 32 ∧ (units c).toNat = 2 := by
  induction cs generalizing column with
  | nil =>
      obtain ⟨sum, hmem, -⟩ := h
      cases hmem
  | cons c cs ih =>
      by_cases hreached : character ≤ column
      · rw [sums, if_pos hreached] at h
        obtain ⟨sum, hmem, -⟩ := h
        cases hmem
      · have hcolumn := lt_of_not_reached hreached
        have hcharacter := character.toNat_lt
        have hunits := units_le_two c
        by_cases hlarge : 2 ^ 32 ≤ column.toNat + (units c).toNat
        · exact ⟨by omega, [], c, cs, rfl, by rw [unitSize_nil]; omega, by omega⟩
        · have hsum := toNat_add_units c (Nat.lt_of_not_le hlarge)
          rw [sums, if_neg hreached] at h
          obtain ⟨sum, hmem, hle⟩ := h
          rcases List.mem_cons.1 hmem with rfl | hmem
          · exact absurd hle hlarge
          · obtain ⟨hlast, front, d, more, rfl, hfront, hpair⟩ := ih ⟨sum, hmem, hle⟩
            refine ⟨hlast, c :: front, d, more, rfl, ?_, hpair⟩
            rw [unitSize_cons]
            omega

/-- All of `front` and the character behind it are passed, and the counter goes round if
it has to. -/
theorem columnOffset_pass (h : column.toNat + unitSize front < character.toNat) (c : Char)
    (more : List Char) (here : Nat) :
    columnOffset character (front ++ c :: more) here column =
      columnOffset character more (here + byteSize front + c.utf8Size)
        (.ofNat (column.toNat + unitSize front) + units c) := by
  induction front generalizing here column with
  | nil =>
      rw [unitSize_nil, Nat.add_zero] at h
      rw [List.nil_append, columnOffset, if_neg (not_reached_of_lt h), unitSize_nil, Nat.add_zero,
        UInt32.ofNat_toNat, byteSize_nil, Nat.add_zero]
  | cons d front ih =>
      rw [unitSize_cons] at h
      have hcharacter := character.toNat_lt
      have hsum := toNat_add_units d (show column.toNat + (units d).toNat < 2 ^ 32 by omega)
      rw [List.cons_append, columnOffset, if_neg (not_reached_of_lt (by omega)), ih (by omega),
        hsum, unitSize_cons, byteSize_cons, Nat.add_assoc here, Nat.add_assoc column.toNat]

theorem unboundedOffset_pass (h : count + unitSize front < limit) (c : Char) (more : List Char)
    (here : Nat) :
    unboundedOffset limit (front ++ c :: more) here count =
      unboundedOffset limit more (here + byteSize front + c.utf8Size)
        (count + unitSize front + (units c).toNat) := by
  induction front generalizing here count with
  | nil =>
      rw [unitSize_nil, Nat.add_zero] at h
      rw [List.nil_append, unboundedOffset, if_neg (Nat.not_le.2 h)]
      rfl
  | cons d front ih =>
      rw [unitSize_cons] at h
      rw [List.cons_append, unboundedOffset, if_neg (by omega), ih (by omega), unitSize_cons,
        byteSize_cons, Nat.add_assoc here, Nat.add_assoc count]

theorem mem_sums_pass (h : column.toNat + unitSize front < character.toNat) (c : Char)
    (more : List Char) :
    column.toNat + unitSize front + (units c).toNat ∈
      sums character (front ++ c :: more) column := by
  induction front generalizing column with
  | nil =>
      rw [unitSize_nil, Nat.add_zero] at h
      rw [List.nil_append, sums, if_neg (not_reached_of_lt h)]
      exact List.mem_cons_self
  | cons d front ih =>
      rw [unitSize_cons] at h
      have hcharacter := character.toNat_lt
      have hsum := toNat_add_units d (show column.toNat + (units d).toNat < 2 ^ 32 by omega)
      have hmem := ih (show (column + units d).toNat + unitSize front < character.toNat by omega)
      rw [hsum, Nat.add_assoc column.toNat] at hmem
      rw [List.cons_append, sums, if_neg (not_reached_of_lt (by omega)), unitSize_cons]
      exact List.mem_cons_of_mem _ hmem

theorem unboundedOffset_of_le (h : limit ≤ count) (cs : List Char) (here : Nat) :
    unboundedOffset limit cs here count = here := by
  cases cs with
  | nil => rfl
  | cons c cs => exact if_pos h

theorem le_columnOffset (character : UInt32) (cs : List Char) (here : Nat) (column : UInt32) :
    here ≤ columnOffset character cs here column := by
  induction cs generalizing here column with
  | nil => exact Nat.le_refl here
  | cons c cs ih =>
      rw [columnOffset]
      split
      · exact Nat.le_refl here
      · exact Nat.le_trans (Nat.le_add_right here c.utf8Size) (ih _ _)

theorem lt_columnOffset (h : column.toNat < character.toNat) (hcs : cs ≠ []) (here : Nat) :
    here < columnOffset character cs here column := by
  cases cs with
  | nil => exact absurd rfl hcs
  | cons c cs =>
      rw [columnOffset, if_neg (not_reached_of_lt h)]
      exact Nat.lt_of_lt_of_le (Nat.lt_add_of_pos_right c.utf8Size_pos) (le_columnOffset _ _ _ _)

namespace Straddles

theorem front_lt (h : Straddles character content front c more) :
    (0 : UInt32).toNat + unitSize front < character.toNat := by
  have hlast := h.last
  have hreached := h.reached
  rw [UInt32.toNat_zero]
  omega

/-- The sum that the pair makes is too large. -/
theorem exists_sum (h : Straddles character content front c more) :
    ∃ sum ∈ sums character content 0, 2 ^ 32 ≤ sum := by
  have hsum : (0 : UInt32).toNat + unitSize front + (units c).toNat = 2 ^ 32 := by
    rw [UInt32.toNat_zero, Nat.zero_add, h.pair, h.reached]
  exact ⟨_, h.split ▸ mem_sums_pass h.front_lt c more, Nat.le_of_eq hsum.symm⟩

/-- Behind the pair the counter begins anew. -/
theorem columnOffset_eq (h : Straddles character content front c more) (here : Nat) :
    columnOffset character content here 0 =
      columnOffset character more (here + byteSize (front ++ [c])) 0 := by
  have hround : UInt32.ofNat ((0 : UInt32).toNat + unitSize front) + units c = 0 := by
    have hreached := h.reached
    have hfront : unitSize front < 2 ^ 32 := by omega
    rw [← UInt32.toNat_inj, UInt32.toNat_zero, Nat.zero_add, UInt32.toNat_add,
      UInt32.toNat_ofNat', Nat.mod_eq_of_lt hfront, h.pair, hreached, Nat.mod_self]
  rw [h.split, columnOffset_pass h.front_lt, hround, byteSize_concat, Nat.add_assoc]

/-- The offset of the column is the one behind the pair. -/
theorem unboundedOffset_eq (h : Straddles character content front c more) (here : Nat) :
    unboundedOffset character.toNat content here 0 = here + byteSize (front ++ [c]) := by
  have hlast := h.last
  have hreached := h.reached
  have hfront := h.front_lt
  have hpair := h.pair
  rw [UInt32.toNat_zero] at hfront
  rw [h.split, unboundedOffset_pass hfront, unboundedOffset_of_le (by omega), byteSize_concat,
    Nat.add_assoc]

end Straddles

/-- The counter goes round exactly where a pair of units straddles the last column. -/
theorem exists_sum_iff :
    (∃ sum ∈ sums character content 0, 2 ^ 32 ≤ sum) ↔
      ∃ front c more, Straddles character content front c more := by
  constructor
  · intro h
    obtain ⟨hlast, front, c, more, hsplit, hreached, hpair⟩ := exists_split_of_sum h
    rw [UInt32.toNat_zero, Nat.zero_add] at hreached
    exact ⟨front, c, more, hlast, hsplit, hreached, hpair⟩
  · rintro ⟨front, c, more, h⟩
    exact h.exists_sum

/-- The search goes wrong exactly where more of the line follows such a pair. -/
theorem columnOffset_eq_unboundedOffset_iff (character : UInt32) (content : List Char)
    (here : Nat) :
    columnOffset character content here 0 = unboundedOffset character.toNat content here 0 ↔
      ∀ front c more, Straddles character content front c more → more = [] := by
  constructor
  · intro heq front c more h
    by_contra hmore
    have hlt := lt_columnOffset (Nat.lt_of_le_of_lt (Nat.le_add_right _ _) h.front_lt) hmore
      (here + byteSize (front ++ [c]))
    rw [h.columnOffset_eq, h.unboundedOffset_eq] at heq
    omega
  · intro hmore
    by_cases hround : ∃ sum ∈ sums character content 0, 2 ^ 32 ≤ sum
    · obtain ⟨front, c, more, h⟩ := exists_sum_iff.1 hround
      obtain rfl := hmore front c more h
      rw [h.columnOffset_eq, h.unboundedOffset_eq]
      rfl
    · have hsums : ∀ sum ∈ sums character content 0, sum < 2 ^ 32 := fun sum hmem =>
        Nat.lt_of_not_le fun hle => hround ⟨sum, hmem, hle⟩
      exact columnOffset_eq_unboundedOffset hsums here

/-- A line of so many letters, and behind them a pair of units and what else there is. -/
theorem straddles_letters {letters : Nat} (h : letters + 2 = 2 ^ 32) (more : List Char) :
    Straddles 4294967295 (List.replicate letters 'a' ++ '😀' :: more) (List.replicate letters 'a')
      '😀' more where
  last := by decide
  split := rfl
  reached := by rw [unitSize_letters, h]
  pair := by decide

theorem isLine_letters (letters : Nat) (h : '\n' ∉ more) :
    IsLine (String.ofList (List.replicate letters 'a' ++ '😀' :: more)).toList 0 []
      (List.replicate letters 'a' ++ '😀' :: more) [] := by
  rw [String.toList_ofList]
  refine .last fun hmem => ?_
  rcases List.mem_append.1 hmem with hletter | hmore
  · exact absurd (List.eq_of_mem_replicate hletter) (by decide)
  · rcases List.mem_cons.1 hmore with hpair | hmore
    · exact absurd hpair (by decide)
    · exact h hmore

theorem byteSize_letters_pair {letters : Nat} (h : letters + 2 = 2 ^ 32) :
    byteSize (List.replicate letters 'a' ++ ['😀']) = 4294967298 := by
  have hpair : '😀'.utf8Size = 4 := by decide
  rw [byteSize_concat, byteSize_letters, hpair]
  omega

end Text

open Text in
/-- The counter of columns is large enough, but for the last column where a pair of units
straddles it. There the search begins anew behind the pair, which makes a difference if
and only if the line goes on. -/
theorem column_counter_goes_round (text : String) (p : Position) {before content after : List Char}
    (hline : IsLine text.toList p.line.toNat before content after) :
    let found := (LinedText.ofText text).offset? p
    let start := byteSize before
    found = some (columnOffset p.character content start 0) ∧
      ((∃ sum ∈ sums p.character content 0, 2 ^ 32 ≤ sum) ↔
        ∃ front c more, Straddles p.character content front c more) ∧
      (found = some (unboundedOffset p.character.toNat content start 0) ↔
        ∀ front c more, Straddles p.character content front c more → more = []) ∧
      ∀ front c more, Straddles p.character content front c more →
        found = some (columnOffset p.character more (start + byteSize (front ++ [c])) 0) ∧
        unboundedOffset p.character.toNat content start 0 = start + byteSize (front ++ [c]) := by
  intro found start
  have hfound : found = some (columnOffset p.character content start 0) :=
    LinedText.offset?_of_isLine hline
  refine ⟨hfound, exists_sum_iff, ?_, fun front c more h => ⟨?_, h.unboundedOffset_eq start⟩⟩
  · rw [hfound, Option.some_inj, columnOffset_eq_unboundedOffset_iff]
  · rw [hfound, h.columnOffset_eq]

open Text in
/-- Nothing is lost where the pair ends the line. -/
theorem column_counter_goes_round_at_the_end :
    let content := List.replicate (2 ^ 32 - 2) 'a' ++ ['😀']
    let p : Position := ⟨0, 4294967295⟩
    IsLine (String.ofList content).toList p.line.toNat [] content [] ∧
      (∃ sum ∈ sums p.character content 0, 2 ^ 32 ≤ sum) ∧
      (LinedText.ofText (String.ofList content)).offset? p = some 4294967298 ∧
      unboundedOffset p.character.toNat content 0 0 = 4294967298 := by
  have hletters : 2 ^ 32 - 2 + 2 = 2 ^ 32 := by decide
  generalize 2 ^ 32 - 2 = letters at hletters ⊢
  intro content p
  have hline : IsLine (String.ofList content).toList p.line.toNat [] content [] :=
    isLine_letters letters List.not_mem_nil
  have hpair : Straddles p.character content (List.replicate letters 'a') '😀' [] :=
    straddles_letters hletters []
  obtain ⟨-, hsums, -, hbehind⟩ := column_counter_goes_round _ p hline
  obtain ⟨hfound, hunbounded⟩ := hbehind _ _ _ hpair
  rw [byteSize_letters_pair hletters, byteSize_nil] at hfound hunbounded
  exact ⟨hline, hsums.2 ⟨_, _, _, hpair⟩, hfound, hunbounded⟩

open Text in
/-- With one more letter on the line the search runs past it. -/
theorem counter_runs_past_a_letter :
    let content := List.replicate (2 ^ 32 - 2) 'a' ++ ['😀', 'b']
    let p : Position := ⟨0, 4294967295⟩
    ¬ (∀ sum ∈ sums p.character content 0, sum < 2 ^ 32) ∧
      (LinedText.ofText (String.ofList content)).offset? p = some 4294967299 ∧
      unboundedOffset p.character.toNat content 0 0 = 4294967298 := by
  have hletters : 2 ^ 32 - 2 + 2 = 2 ^ 32 := by decide
  generalize 2 ^ 32 - 2 = letters at hletters ⊢
  intro content p
  have hline : IsLine (String.ofList content).toList p.line.toNat [] content [] :=
    isLine_letters letters (by decide)
  have hpair : Straddles p.character content (List.replicate letters 'a') '😀' ['b'] :=
    straddles_letters hletters ['b']
  obtain ⟨sum, hmem, hle⟩ := hpair.exists_sum
  refine ⟨fun hall => Nat.not_lt.2 hle (hall sum hmem), ?_, ?_⟩
  · rw [LinedText.offset?_of_isLine hline, hpair.columnOffset_eq, byteSize_letters_pair hletters]
    rfl
  · rw [hpair.unboundedOffset_eq, byteSize_letters_pair hletters]

end Bilingual
