import Bilingual.Text.Search

/-!
Occurrences of a text in another, told by the bytes that stand at an offset.
UTF-8 lets no text stand askew between two characters, so these are the
occurrences among the characters, and the search finds the first of them.
-/

namespace Bilingual.Text

/-- The bytes of `pattern` stand in `text` from `offset` on. -/
def OccursAt (pattern text : String) (offset : Nat) : Prop :=
  text.toByteArray.extract offset (offset + pattern.utf8ByteSize) = pattern.toByteArray

/-- The bytes of `pattern` stand in `text` up to `offset`. -/
def EndsAt (pattern text : String) (offset : Nat) : Prop :=
  ∃ start, OccursAt pattern text start ∧ start + pattern.utf8ByteSize = offset

/-- `start` is the first place at or behind `here` where `pattern` occurs. -/
structure IsFirst (pattern text : String) (here start : Nat) : Prop where
  occurs : OccursAt pattern text start
  here_le : here ≤ start
  least : ∀ other, OccursAt pattern text other → here ≤ other → start ≤ other

/-- A place between two characters, or at either end. -/
def IsBoundary (text : String) (offset : Nat) : Prop :=
  String.Pos.Raw.IsValid text ⟨offset⟩

theorem byteSize_toList (s : String) : byteSize s.toList = s.utf8ByteSize := by
  induction s using String.push_induction with
  | empty => rfl
  | push s c ih => simp [ih]

theorem utf8ByteSize_pos {s : String} (h : s ≠ "") : 0 < s.utf8ByteSize :=
  Nat.pos_of_ne_zero fun h0 => h (String.utf8ByteSize_eq_zero_iff.1 h0)

theorem isBoundary_iff {text : String} {offset : Nat} :
    IsBoundary text offset ↔
      ∃ before after, text.toList = before ++ after ∧ offset = byteSize before := by
  unfold IsBoundary
  rw [String.Pos.Raw.isValid_iff_exists_append]
  constructor
  · rintro ⟨s, t, rfl, ho⟩
    refine ⟨s.toList, t.toList, String.toList_append, ?_⟩
    rw [byteSize_toList]
    exact congrArg String.Pos.Raw.byteIdx ho
  · rintro ⟨before, after, ht, rfl⟩
    refine ⟨String.ofList before, String.ofList after, ?_, ?_⟩
    · rw [← String.ofList_append, ← ht, String.ofList_toList]
    · rw [String.Pos.Raw.ext_iff, String.byteIdx_rawEndPos, ← byteSize_toList,
        String.toList_ofList]

/-- What stands at the head in bytes stands there in characters. -/
theorem extract_eq_iff_head {pattern text : String} :
    text.toByteArray.extract 0 pattern.utf8ByteSize = pattern.toByteArray ↔
      pattern.toList <+: text.toList := by
  constructor
  · intro h
    have hsize : pattern.utf8ByteSize ≤ text.toByteArray.size := by
      have := congrArg ByteArray.size h
      simp only [ByteArray.size_extract, String.size_toByteArray] at this ⊢
      omega
    apply List.isPrefix_of_utf8Encode_append_eq_utf8Encode
      (text.toByteArray.extract pattern.utf8ByteSize text.toByteArray.size)
    rw [String.utf8Encode_toList, String.utf8Encode_toList, ← h,
      ← ByteArray.extract_eq_extract_append_extract _ (Nat.zero_le _) hsize,
      ByteArray.extract_zero_size]
  · rintro ⟨after, ht⟩
    have hs : text = pattern ++ String.ofList after := by
      rw [← String.toList_inj, ← ht, String.toList_append, String.toList_ofList]
    rw [hs, String.toByteArray_append]
    exact ByteArray.extract_append_eq_left String.size_toByteArray.symm

/-- An occurrence among the bytes is one among the characters. -/
theorem occursAt_iff_head {pattern text : String} {before rest : List Char}
    (ht : text.toList = before ++ rest) :
    OccursAt pattern text (byteSize before) ↔ pattern.toList <+: rest := by
  have hs : text = String.ofList before ++ String.ofList rest := by
    rw [← String.ofList_append, ← ht, String.ofList_toList]
  have hsize : byteSize before = (String.ofList before).toByteArray.size := by
    rw [String.size_toByteArray, ← byteSize_toList, String.toList_ofList]
  have hextract := ByteArray.extract_append_size_add' (b := (String.ofList rest).toByteArray)
    (i := 0) (j := pattern.utf8ByteSize) hsize
  rw [Nat.add_zero] at hextract
  unfold OccursAt
  rw [hs, String.toByteArray_append, hextract, extract_eq_iff_head, String.toList_ofList]

/-- What occurs somewhere has the character that stands there. -/
theorem OccursAt.mem {pattern text : String} {before rest : List Char} {c : Char}
    (h : OccursAt pattern text (byteSize before)) (hne : pattern ≠ "")
    (ht : text.toList = before ++ c :: rest) : c ∈ pattern.toList := by
  have hhead := (occursAt_iff_head ht).1 h
  cases hp : pattern.toList with
  | nil => exact absurd (String.toList_eq_nil_iff.1 hp) hne
  | cons p ps =>
      rw [hp] at hhead
      obtain ⟨rfl, -⟩ := List.cons_prefix_cons.1 hhead
      exact List.mem_cons_self

theorem occursAt_zero {pattern text : String} {rest : List Char}
    (ht : text.toList = pattern.toList ++ rest) : OccursAt pattern text 0 :=
  (occursAt_iff_head (List.nil_append _).symm).2 ⟨rest, ht.symm⟩

/-- No character begins inside another, so an occurrence has boundaries at both
ends. -/
theorem OccursAt.isBoundary {pattern text : String} {offset : Nat}
    (h : OccursAt pattern text offset) (hne : pattern ≠ "") :
    IsBoundary text offset ∧ IsBoundary text (offset + pattern.utf8ByteSize) := by
  have hpos := utf8ByteSize_pos hne
  have hsize : offset + pattern.utf8ByteSize ≤ text.utf8ByteSize := by
    have := congrArg ByteArray.size h
    simp only [ByteArray.size_extract, String.size_toByteArray] at this
    omega
  have hvalid : (text.toByteArray.extract offset (offset + pattern.utf8ByteSize)).IsValidUTF8 :=
    h ▸ pattern.isValidUTF8
  have hle : (⟨offset⟩ : String.Pos.Raw) ≤ ⟨offset + pattern.utf8ByteSize⟩ := by
    simp [String.Pos.Raw.le_iff]
  rcases (String.Pos.Raw.isValidUTF8_extract_iff _ _ hle
    (by simpa [String.Pos.Raw.le_iff] using hsize)).1 hvalid with he | hb
  · have := congrArg String.Pos.Raw.byteIdx he
    simp only at this
    omega
  · exact hb

theorem OccursAt.le_size {pattern text : String} {offset : Nat} (h : OccursAt pattern text offset)
    (hne : pattern ≠ "") : offset + pattern.utf8ByteSize ≤ text.utf8ByteSize :=
  String.Pos.Raw.le_iff.1 (h.isBoundary hne).2.le_rawEndPos

/-- Behind a boundary the next one stands behind the next character. -/
theorem IsBoundary.next_le {text : String} {before after : List Char} {c : Char} {offset : Nat}
    (hb : IsBoundary text offset) (ht : text.toList = before ++ c :: after)
    (hlt : byteSize before < offset) : byteSize (before ++ [c]) ≤ offset := by
  obtain ⟨prior, rest, hp, rfl⟩ := isBoundary_iff.1 hb
  rw [ht] at hp
  rcases List.append_eq_append_iff.1 hp with ⟨more, rfl, hm⟩ | ⟨more, rfl, -⟩
  · cases more with
    | nil => simp at hlt
    | cons d more =>
        obtain ⟨rfl, -⟩ := List.cons.inj hm
        simp
  · rw [byteSize_append] at hlt
    omega

/-- The search either finds the first occurrence behind `before`, or there is
none to find. -/
theorem find?_cases {pattern text : String} (hne : pattern ≠ "") {before cs : List Char}
    (ht : text.toList = before ++ cs) :
    (find? pattern.toList cs (byteSize before) = none ∧
      ∀ other, OccursAt pattern text other → other < byteSize before) ∨
    ∃ prior rest, text.toList = prior ++ pattern.toList ++ rest ∧
      find? pattern.toList cs (byteSize before) = some (byteSize prior, rest) ∧
      IsFirst pattern text (byteSize before) (byteSize prior) := by
  induction cs generalizing before with
  | nil =>
      left
      constructor
      · cases hp : pattern.toList with
        | nil => exact absurd (String.toList_eq_nil_iff.1 hp) hne
        | cons p ps => rfl
      · intro other ho
        have hsize := byteSize_toList text
        rw [ht, List.append_nil] at hsize
        have := ho.le_size hne
        have := utf8ByteSize_pos hne
        omega
  | cons c cs ih =>
      cases ha : after? pattern.toList (c :: cs) with
      | some rest =>
          right
          have hc := after?_eq_some_iff.1 ha
          refine ⟨before, rest, by rw [ht, hc, List.append_assoc], by simp [find?, ha], ?_⟩
          exact ⟨(occursAt_iff_head ht).2 ⟨rest, hc.symm⟩, Nat.le_refl _, fun _ _ hle => hle⟩
      | none =>
          have hnot : ¬ OccursAt pattern text (byteSize before) := by
            rw [occursAt_iff_head ht]
            rintro ⟨rest, hr⟩
            exact absurd (after?_eq_some_iff.2 hr.symm) (by simp [ha])
          have hnext {other : Nat} (ho : OccursAt pattern text other)
              (hle : byteSize before ≤ other) : byteSize (before ++ [c]) ≤ other := by
            refine (ho.isBoundary hne).1.next_le ht (Nat.lt_of_le_of_ne hle ?_)
            rintro rfl
            exact hnot ho
          have hstep : find? pattern.toList (c :: cs) (byteSize before) =
              find? pattern.toList cs (byteSize (before ++ [c])) := by
            simp [find?, ha]
          have hlt : byteSize before ≤ byteSize (before ++ [c]) := by simp
          rw [hstep]
          rcases ih (show text.toList = (before ++ [c]) ++ cs by simp [ht]) with
            ⟨hf, hno⟩ | ⟨prior, rest, hp, hf, h⟩
          · refine Or.inl ⟨hf, fun other ho => Nat.lt_of_not_le fun hle => ?_⟩
            exact absurd (hno other ho) (Nat.not_lt.2 (hnext ho hle))
          · refine Or.inr ⟨prior, rest, hp, hf, h.occurs, Nat.le_trans hlt h.here_le, ?_⟩
            exact fun other ho hle => h.least other ho (hnext ho hle)

/-- What is found is the first occurrence, and the text goes on behind it. -/
theorem isFirst_of_find? {pattern text : String} (hne : pattern ≠ "") {before cs rest : List Char}
    {start : Nat} (ht : text.toList = before ++ cs)
    (h : find? pattern.toList cs (byteSize before) = some (start, rest)) :
    IsFirst pattern text (byteSize before) start ∧
      ∃ prior, text.toList = prior ++ rest ∧ start + pattern.utf8ByteSize = byteSize prior := by
  rcases find?_cases hne ht with ⟨hf, -⟩ | ⟨prior, rest', hp, hf, hfirst⟩
  · simp [hf] at h
  · rw [hf] at h
    cases h
    exact ⟨hfirst, prior ++ pattern.toList, hp, by rw [byteSize_append, byteSize_toList]⟩

theorem lt_of_find?_eq_none {pattern text : String} (hne : pattern ≠ "") {before cs : List Char}
    {other : Nat} (ht : text.toList = before ++ cs)
    (h : find? pattern.toList cs (byteSize before) = none) (ho : OccursAt pattern text other) :
    other < byteSize before := by
  rcases find?_cases hne ht with ⟨-, hno⟩ | ⟨prior, rest, -, hf, -⟩
  · exact hno other ho
  · simp [hf] at h

/-- The bytes of a text in UTF-8. -/
def utf8 (cs : List Char) : List UInt8 := cs.flatMap String.utf8EncodeChar

@[simp] theorem utf8_append (a b : List Char) : utf8 (a ++ b) = utf8 a ++ utf8 b :=
  List.flatMap_append

theorem toByteArray_eq_utf8 (s : String) : s.toByteArray = (utf8 s.toList).toByteArray :=
  String.utf8Encode_toList.symm

theorem eq_nil_of_byteSize_eq_zero {cs : List Char} (h : byteSize cs = 0) : cs = [] := by
  cases cs with
  | nil => rfl
  | cons c cs =>
      have := c.utf8Size_pos
      rw [byteSize_cons] at h
      omega

/-- What a text ends with in bytes it ends with in characters. -/
theorem utf8_suffix_iff {pattern text : String} :
    utf8 pattern.toList <:+ utf8 text.toList ↔ pattern.toList <:+ text.toList := by
  constructor
  · rintro ⟨front, hfront⟩
    by_cases hne : pattern = ""
    · subst hne
      exact List.nil_suffix
    · have hbytes : text.toByteArray = front.toByteArray ++ pattern.toByteArray := by
        rw [toByteArray_eq_utf8, ← hfront, List.toByteArray_append, ← toByteArray_eq_utf8]
      have hsize : front.length = front.toByteArray.size := List.size_toByteArray.symm
      have hoccurs : OccursAt pattern text front.length := by
        unfold OccursAt
        rw [hbytes]
        exact ByteArray.extract_append_eq_right hsize (by rw [hsize, String.size_toByteArray])
      obtain ⟨before, after, hsplit, hoffset⟩ := isBoundary_iff.1 (hoccurs.isBoundary hne).1
      rw [hoffset] at hoccurs
      obtain ⟨rest, hrest⟩ := (occursAt_iff_head hsplit).1 hoccurs
      have htotal : text.utf8ByteSize = front.length + pattern.utf8ByteSize := by
        rw [← String.size_toByteArray, hbytes, ByteArray.size_append, ← hsize,
          String.size_toByteArray]
      rw [← byteSize_toList, hsplit, ← hrest, hoffset, byteSize_append, byteSize_append,
        byteSize_toList] at htotal
      have hend : rest = [] := eq_nil_of_byteSize_eq_zero (by omega)
      exact ⟨before, by rw [hsplit, ← hrest, hend, List.append_nil]⟩
  · rintro ⟨front, hfront⟩
    exact ⟨utf8 front, by rw [← hfront, utf8_append]⟩

end Bilingual.Text
