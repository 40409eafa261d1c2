import Bilingual.Proofs.Delimiters.Blocks

/-!
Pairs of delimiters are told apart by the blocks that they find. What a pair finds
right at the head of a text made of its own two sides, with something in between,
another pair finds only if it begins and ends like the first.
-/

namespace Bilingual.Delimiters

variable {d d' : Delimiters} {text : String} {stop : Nat}

/-- Both sides, with something in between. -/
def around (d : Delimiters) (body : String) : String := d.opening ++ body ++ d.closing

theorem toList_around (d : Delimiters) (body : String) :
    (d.around body).toList = d.opening.toList ++ (body.toList ++ d.closing.toList) := by
  rw [around, String.toList_append, String.toList_append, List.append_assoc]

theorem utf8ByteSize_around (d : Delimiters) (body : String) :
    (d.around body).utf8ByteSize =
      d.opening.utf8ByteSize + body.utf8ByteSize + d.closing.utf8ByteSize := by
  simp only [around, String.utf8ByteSize_append]

theorem isBlock_around (d : Delimiters) (body : String) :
    d.IsBlock (d.around body) ⟨0, (d.around body).utf8ByteSize⟩ := by
  have hcloses : Text.OccursAt d.closing (d.around body)
      (Text.byteSize (d.opening.toList ++ body.toList)) :=
    (Text.occursAt_iff_head (by rw [toList_around, List.append_assoc])).2 (List.prefix_refl _)
  rw [Text.byteSize_append, Text.byteSize_toList, Text.byteSize_toList] at hcloses
  refine ⟨Text.occursAt_zero (d.toList_around body), ⟨_, hcloses, ?_⟩, ?_⟩
  · exact (d.utf8ByteSize_around body).symm
  · dsimp only
    rw [utf8ByteSize_around]
    omega

/-- Where a block stands at the head, the first one that is found does too. -/
theorem exists_first (h : d.IsBlock text ⟨0, stop⟩) :
    ∃ first rs, d.scan text = ⟨0, first⟩ :: rs ∧ first ≤ stop ∧ d.IsBlock text ⟨0, first⟩ := by
  have hblocks := d.blocks_scan text
  generalize d.scan text = rs at hblocks
  cases hblocks with
  | none hnone => exact absurd (Nat.zero_le 0) (hnone _ h)
  | @next _ r rs hnext hrest =>
      have hstart : r.start = 0 := Nat.le_zero.1 (hnext.starts_first _ h (Nat.zero_le _))
      have hstop := hnext.stops_first _ h hstart.symm
      obtain ⟨start, first⟩ := r
      obtain rfl : start = 0 := hstart
      exact ⟨first, rs, rfl, hstop, hnext.block⟩

/-- What one pair finds at the head, another that finds the same has there as well. -/
theorem isBlock_of_scan_eq (h : d.IsBlock text ⟨0, stop⟩) (hscan : d'.scan text = d.scan text) :
    ∃ first ≤ stop, d.IsBlock text ⟨0, first⟩ ∧ d'.IsBlock text ⟨0, first⟩ := by
  obtain ⟨first, rs, hfound, hle, hblock⟩ := exists_first h
  exact ⟨first, hle, hblock, (isNext_of_scan_eq (hscan.trans hfound)).block⟩

/-- An opening delimiter that went on behind this one would depend on what stands there. -/
theorem opening_isPrefix (h : ∀ text, d'.scan text = d.scan text) :
    d'.opening.toList <+: d.opening.toList := by
  have hhead (body : String) :
      d'.opening.toList <+: d.opening.toList ++ (body.toList ++ d.closing.toList) := by
    obtain ⟨_, -, -, hblock⟩ := isBlock_of_scan_eq (d.isBlock_around body) (h _)
    rw [← d.toList_around body]
    exact (Text.occursAt_iff_head (List.nil_append _).symm).1 hblock.opens
  rcases List.prefix_or_prefix_of_prefix (hhead "") (List.prefix_append _ _) with
    hshort | ⟨more, hmore⟩
  · exact hshort
  · cases more with
    | nil => exact ⟨[], by rw [List.append_nil, ← hmore, List.append_nil]⟩
    | cons c more =>
        have hsecond (body : String) : c :: more <+: body.toList ++ d.closing.toList := by
          have := hhead body
          rwa [← hmore, List.prefix_append_right_inj] at this
        obtain ⟨ha, -⟩ := List.cons_prefix_cons.1 (hsecond "a")
        obtain ⟨hb, -⟩ := List.cons_prefix_cons.1 (hsecond "b")
        exact absurd (ha.symm.trans hb) (by decide)

/-- With nothing in between, both pairs find the whole text. -/
theorem isBlock_whole (h : ∀ text, d'.scan text = d.scan text) :
    d'.IsBlock (d.around "") ⟨0, d.opening.utf8ByteSize + d.closing.utf8ByteSize⟩ := by
  have hsize : (d.around "").utf8ByteSize = d.opening.utf8ByteSize + d.closing.utf8ByteSize :=
    d.utf8ByteSize_around ""
  obtain ⟨first, hle, hblock, hother⟩ := isBlock_of_scan_eq (d.isBlock_around "") (h _)
  have happart := hblock.apart
  dsimp only at happart
  obtain rfl : first = d.opening.utf8ByteSize + d.closing.utf8ByteSize := by omega
  exact hother

/-- Neither closing delimiter is the longer one, and so both stand right behind the
opening one. -/
theorem closing_eq (h : ∀ text, d'.scan text = d.scan text) (hopening : d'.opening = d.opening) :
    d'.closing = d.closing := by
  have hblock := isBlock_whole h
  obtain ⟨inner, hcloses, hinner⟩ := hblock.closes
  have happart := hblock.apart
  have hback := (isBlock_whole fun text => (h text).symm).apart
  dsimp only at hinner happart hback
  rw [hopening] at happart hback
  obtain rfl : inner = Text.byteSize d.opening.toList := by
    rw [Text.byteSize_toList]
    omega
  obtain ⟨rest, hrest⟩ := (Text.occursAt_iff_head (d.toList_around "")).1 hcloses
  have hbytes := congrArg Text.byteSize hrest
  rw [String.toList_empty, List.nil_append, Text.byteSize_append, Text.byteSize_toList,
    Text.byteSize_toList] at hbytes
  obtain rfl : rest = [] := Text.eq_nil_of_byteSize_eq_zero (by omega)
  rw [← String.toList_inj]
  simpa using hrest

/-- Pairs that find the same in all texts are the same. -/
theorem eq_of_scan_eq (h : ∀ text, d'.scan text = d.scan text) : d' = d := by
  have hopening : d'.opening = d.opening := String.toList_inj.1
    ((opening_isPrefix h).eq_of_length_le (opening_isPrefix fun text => (h text).symm).length_le)
  have hclosing := closing_eq h hopening
  cases d
  cases d'
  simp_all

end Bilingual.Delimiters
