import Bilingual.Delimiters
import Bilingual.Proofs.Text.Occurrence

/-!
Blocks of a text, told by where delimiters occur in it, and the one way to take
them one behind another. The scan takes them in that way. Delimiters may overlap
themselves and each other; only those of one block have to lie apart.
-/

namespace Bilingual.Delimiters

/-- A stretch that opens with one delimiter and closes with the other. -/
structure IsBlock (d : Delimiters) (text : String) (r : Region) : Prop where
  opens : Text.OccursAt d.opening text r.start
  closes : Text.EndsAt d.closing text r.stop
  apart : r.start + (d.opening.utf8ByteSize + d.closing.utf8ByteSize) ≤ r.stop

/-- Of the blocks at or behind `here` the one that starts first, and of those the
one that stops first. -/
structure IsNext (d : Delimiters) (text : String) (here : Nat) (r : Region) : Prop where
  block : d.IsBlock text r
  here_le : here ≤ r.start
  starts_first : ∀ s, d.IsBlock text s → here ≤ s.start → r.start ≤ s.start
  stops_first : ∀ s, d.IsBlock text s → s.start = r.start → r.stop ≤ s.stop

/-- The next block, the next one behind that, and so on until none is left. -/
inductive Blocks (d : Delimiters) (text : String) : Nat → List Region → Prop
  | none {here : Nat} (h : ∀ r, d.IsBlock text r → ¬ here ≤ r.start) : Blocks d text here []
  | next {here : Nat} {r : Region} {rs : List Region} (h : d.IsNext text here r)
      (hs : Blocks d text r.stop rs) : Blocks d text here (r :: rs)

variable {d : Delimiters} {text : String}

theorem IsBlock.start_lt_stop {r : Region} (h : d.IsBlock text r) : r.start < r.stop := by
  have := Text.utf8ByteSize_pos d.opening_ne
  have := h.apart
  omega

theorem IsBlock.stop_le_size {r : Region} (h : d.IsBlock text r) :
    r.stop ≤ text.utf8ByteSize := by
  obtain ⟨inner, ho, he⟩ := h.closes
  exact he ▸ ho.le_size d.closing_ne

theorem IsBlock.isBoundary {r : Region} (h : d.IsBlock text r) :
    Text.IsBoundary text r.start ∧ Text.IsBoundary text r.stop := by
  obtain ⟨inner, ho, he⟩ := h.closes
  exact ⟨(h.opens.isBoundary d.opening_ne).1, he ▸ (ho.isBoundary d.closing_ne).2⟩

/-- An opening delimiter further in front shares the end of a block. -/
theorem IsBlock.widen {r : Region} (h : d.IsBlock text r) {start : Nat}
    (ho : Text.OccursAt d.opening text start) (hle : start ≤ r.start) :
    d.IsBlock text ⟨start, r.stop⟩ :=
  ⟨ho, h.closes, Nat.le_trans (Nat.add_le_add_right hle _) h.apart⟩

/-- The next block starts at the first opening delimiter there is. -/
theorem IsNext.isFirst {here : Nat} {r : Region} (h : d.IsNext text here r) :
    Text.IsFirst d.opening text here r.start := by
  refine ⟨h.block.opens, h.here_le, fun other ho hle => Nat.le_of_not_lt fun hlt => ?_⟩
  have hw := h.block.widen ho (Nat.le_of_lt hlt)
  exact absurd (h.starts_first _ hw hle) (Nat.not_le.2 hlt)

theorem IsNext.unique {here : Nat} {r s : Region} (hr : d.IsNext text here r)
    (hs : d.IsNext text here s) : r = s := by
  have hstart : r.start = s.start :=
    Nat.le_antisymm (hr.starts_first s hs.block hs.here_le) (hs.starts_first r hr.block hr.here_le)
  have hstop : r.stop = s.stop :=
    Nat.le_antisymm (hr.stops_first s hs.block hstart.symm) (hs.stops_first r hr.block hstart)
  cases r
  cases s
  simp_all

theorem Blocks.unique {here : Nat} {rs ss : List Region} (hr : d.Blocks text here rs)
    (hs : d.Blocks text here ss) : rs = ss := by
  induction hr generalizing ss with
  | none h =>
      cases hs with
      | none _ => rfl
      | next hn _ => exact absurd hn.here_le (h _ hn.block)
  | next h _ ih =>
      cases hs with
      | none hn => exact absurd h.here_le (hn _ h.block)
      | next hn hs =>
          cases h.unique hn
          rw [ih hs]

theorem Blocks.isBlock {here : Nat} {rs : List Region} (h : d.Blocks text here rs) :
    ∀ r ∈ rs, d.IsBlock text r ∧ here ≤ r.start := by
  induction h with
  | none _ => simp
  | next h _ ih =>
      intro r hr
      rcases List.mem_cons.1 hr with rfl | hr
      · exact ⟨h.block, h.here_le⟩
      · have := h.block.start_lt_stop
        have := h.here_le
        exact ⟨(ih r hr).1, by have := (ih r hr).2; omega⟩

theorem Blocks.pairwise {here : Nat} {rs : List Region} (h : d.Blocks text here rs) :
    rs.Pairwise fun r s => r.stop ≤ s.start := by
  induction h with
  | none _ => exact .nil
  | next _ hs ih => exact .cons (fun s hmem => (hs.isBlock s hmem).2) ih

/-- Where the next block is looked for behind a list of blocks. -/
def endOf (here : Nat) (rs : List Region) : Nat := (rs.getLast?.map Region.stop).getD here

@[simp] theorem endOf_nil (here : Nat) : endOf here [] = here := rfl

@[simp] theorem endOf_cons (here : Nat) (r : Region) (rs : List Region) :
    endOf here (r :: rs) = endOf r.stop rs := by
  simp [endOf, List.getLast?_cons]

theorem Blocks.isNext {here : Nat} {before after : List Region} {r : Region}
    (h : d.Blocks text here (before ++ r :: after)) : d.IsNext text (endOf here before) r := by
  induction before generalizing here with
  | nil =>
      cases h with
      | next h _ => exact h
  | cons b bs ih =>
      cases h with
      | next _ hs =>
          rw [endOf_cons]
          exact ih hs

/-- The scan of what stands behind `before` takes the blocks there. -/
theorem blocks_scanFrom (before : List Char) {cs : List Char} {here : Nat}
    (ht : text.toList = before ++ cs) (hh : here = Text.byteSize before) :
    d.Blocks text here (d.scanFrom cs here) := by
  fun_induction d.scanFrom cs here generalizing before with
  | case1 cs here ho =>
      subst hh
      refine .none fun r hr hle => ?_
      exact absurd (Text.lt_of_find?_eq_none d.opening_ne ht ho hr.opens) (Nat.not_lt.2 hle)
  | case2 cs here start body ho hc =>
      subst hh
      obtain ⟨hfirst, prior, hp, hprior⟩ := Text.isFirst_of_find? d.opening_ne ht ho
      refine .none fun r hr hle => ?_
      obtain ⟨close, hclose, he⟩ := hr.closes
      have := Text.lt_of_find?_eq_none d.closing_ne hp (hprior ▸ hc) hclose
      have := hfirst.least _ hr.opens hle
      have := hr.apart
      omega
  | case3 cs here start body ho inner rest hc ih =>
      subst hh
      obtain ⟨hfirst, prior, hp, hprior⟩ := Text.isFirst_of_find? d.opening_ne ht ho
      obtain ⟨hclose, prior', hp', hprior'⟩ :=
        Text.isFirst_of_find? d.closing_ne hp (hprior ▸ hc)
      have happart := hclose.here_le
      refine .next ⟨⟨hfirst.occurs, ⟨inner, hclose.occurs, rfl⟩, by simp only; omega⟩,
        hfirst.here_le, fun s hs hle => hfirst.least _ hs.opens hle, fun s hs hstart => ?_⟩
        (ih prior' hp' hprior')
      obtain ⟨other, hother, he⟩ := hs.closes
      have := hs.apart
      have := hclose.least other hother (by simp only at hstart; omega)
      simp only
      omega

theorem blocks_scan (d : Delimiters) (text : String) : d.Blocks text 0 (d.scan text) :=
  blocks_scanFrom [] rfl rfl

theorem isNext_of_scan_eq {r : Region} {rs : List Region}
    (h : d.scan text = r :: rs) : d.IsNext text 0 r := by
  have hblocks : d.Blocks text 0 (r :: rs) := h ▸ d.blocks_scan text
  cases hblocks with
  | next hnext _ => exact hnext

/-- The blocks are the leftmost shortest ones, and there is one way to take them.
They come in order and apart, from boundary to boundary, and each starts at the
first opening delimiter behind the last block. Where that delimiter is not closed,
none behind it is. -/
theorem scan_leftmost_shortest (d : Delimiters) (text : String) :
    (∀ rs, d.Blocks text 0 rs ↔ rs = d.scan text) ∧
      (d.scan text).Pairwise (fun r s => r.stop ≤ s.start) ∧
      (∀ r ∈ d.scan text, d.IsBlock text r ∧ r.start < r.stop ∧ r.stop ≤ text.utf8ByteSize ∧
        Text.IsBoundary text r.start ∧ Text.IsBoundary text r.stop) ∧
      (∀ before r after, d.scan text = before ++ r :: after →
        d.IsNext text (endOf 0 before) r ∧
          Text.IsFirst d.opening text (endOf 0 before) r.start) ∧
      ∀ here start, Text.IsFirst d.opening text here start →
        (∀ stop, ¬ d.IsBlock text ⟨start, stop⟩) →
        ∀ r, d.IsBlock text r → ¬ here ≤ r.start := by
  have hscan := blocks_scan d text
  refine ⟨fun rs => ⟨fun h => h.unique hscan, fun h => h ▸ hscan⟩, hscan.pairwise,
    fun r hr => ?_, fun before r after hsplit => ?_, fun here start hfirst hno r hr hle => ?_⟩
  · have hb := (hscan.isBlock r hr).1
    exact ⟨hb, hb.start_lt_stop, hb.stop_le_size, hb.isBoundary⟩
  · have hnext := (hsplit ▸ hscan).isNext
    exact ⟨hnext, hnext.isFirst⟩
  · exact hno r.stop (hr.widen hfirst.occurs (hfirst.least _ hr.opens hle))

end Bilingual.Delimiters
