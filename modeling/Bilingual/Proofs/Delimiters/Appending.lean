import Bilingual.Proofs.Delimiters.Blocks
import Bilingual.Proofs.Delimiters.Scan
import Bilingual.Proofs.Text.Slices
import Bilingual.Proofs.Viewport.Cursor

/-!
The scan of a text that goes on at its end. The blocks found so far stay, and what
follows is scanned from behind the last of them, as if a text began there.
-/

namespace Bilingual

namespace Delimiters

/-- The scan leaves the text behind its last block, and whatever is added is scanned
from there. -/
theorem scanFrom_append (d : Delimiters) (cs : List Char) (here : Nat) :
    ∃ scanned rest, cs = scanned ++ rest ∧
      endOf here (d.scanFrom cs here) = here + Text.byteSize scanned ∧
      ∀ more, d.scanFrom (cs ++ more) here =
        d.scanFrom cs here ++ d.scanFrom (rest ++ more) (here + Text.byteSize scanned) := by
  fun_induction d.scanFrom cs here with
  | case1 cs here ho => exact ⟨[], cs, rfl, rfl, fun more => rfl⟩
  | case2 cs here start body ho hc => exact ⟨[], cs, rfl, rfl, fun more => rfl⟩
  | case3 cs here start body ho inner rest hc ih =>
      obtain ⟨before, hbefore, hstart⟩ := Text.eq_append_of_find? ho
      obtain ⟨between, hbetween, hinner⟩ := Text.eq_append_of_find? hc
      obtain ⟨scanned, left, hleft, hend, hmore⟩ := ih
      have hsize : here + Text.byteSize (before ++ d.opening.toList ++ between ++
          d.closing.toList ++ scanned) =
          inner + d.closing.utf8ByteSize + Text.byteSize scanned := by
        simp only [Text.byteSize_append, Text.byteSize_toList]
        omega
      refine ⟨before ++ d.opening.toList ++ between ++ d.closing.toList ++ scanned, left, ?_, ?_,
        fun more => ?_⟩
      · rw [hbefore, hbetween, hleft]
        simp only [List.append_assoc]
      · rw [endOf_cons, hend, hsize]
      · rw [scanFrom_of_block (Text.find?_append ho more) (Text.find?_append hc more), hmore,
          hsize]
        rfl

theorem exists_stop_eq_endOf {rs : List Region} (hne : rs ≠ []) (here : Nat) :
    ∃ r ∈ rs, r.stop = endOf here rs :=
  ⟨rs.getLast hne, List.getLast_mem hne, by simp [endOf, List.getLast?_eq_some_getLast hne]⟩

/-- Blocks behind the last one leave the language up to its end as it is. At that end
both the last block and one that follows at once are script. -/
theorem atCursor_append_shift {rs : List Region} (hne : rs ≠ [])
    (hrs : ∀ r ∈ rs, r.start < r.stop) (later : List Region) {offset : Nat}
    (hoffset : offset ≤ endOf 0 rs) :
    Tag.atCursor (rs ++ later.map (Region.shift (endOf 0 rs))) offset =
      Tag.atCursor rs offset := by
  obtain ⟨last, hlast, hstop⟩ := exists_stop_eq_endOf hne 0
  refine Tag.atCursor_eq_of_iff ⟨?_, ?_⟩
  · rintro ⟨r, hr, hcontains⟩
    rcases List.mem_append.1 hr with hr | hr
    · exact ⟨r, hr, hcontains⟩
    · obtain ⟨s, -, rfl⟩ := List.mem_map.1 hr
      have hstart : s.start + endOf 0 rs ≤ offset := (Region.contains_iff.1 hcontains).1
      have := hrs last hlast
      exact ⟨last, hlast, Region.contains_iff.2 ⟨by omega, by omega⟩⟩
  · rintro ⟨r, hr, hcontains⟩
    exact ⟨r, List.mem_append_left _ hr, hcontains⟩

/-- Text added at the end moves no block and takes none away. It is scanned from the
end of the last block on, and up to there no language changes. -/
theorem scan_of_appended (d : Delimiters) (text more : String) :
    let found := d.scan text
    let stop := endOf 0 found
    found <+: d.scan (text ++ more) ∧
    (∃ front rest, Text.cut? (text ++ more).toList stop = some (front, rest) ∧
      d.scan (text ++ more) =
        found ++ (d.scan (String.ofList rest)).map (Region.shift stop)) ∧
    (found ≠ [] → ∀ offset ≤ stop,
      Tag.atCursor (d.scan (text ++ more)) offset = Tag.atCursor found offset) := by
  intro found stop
  obtain ⟨scanned, rest, hsplit, hend, hmore⟩ := d.scanFrom_append text.toList 0
  have hstop : stop = Text.byteSize scanned := hend.trans (Nat.zero_add _)
  have hcut : Text.cut? (text ++ more).toList stop = some (scanned, rest ++ more.toList) := by
    rw [String.toList_append, hsplit, List.append_assoc, hstop]
    exact Text.cut?_append scanned (rest ++ more.toList)
  have hscan : d.scan (text ++ more) =
      found ++ (d.scan (String.ofList (rest ++ more.toList))).map (Region.shift stop) := by
    rw [scan, String.toList_append, hmore, scanFrom_add, scan, String.toList_ofList, hstop]
    rfl
  refine ⟨⟨_, hscan.symm⟩, ⟨scanned, rest ++ more.toList, hcut, hscan⟩, fun hne offset hle => ?_⟩
  have hblocks : ∀ r ∈ found, r.start < r.stop := fun r hr =>
    ((d.blocks_scan text).isBlock r hr).1.start_lt_stop
  rw [hscan]
  exact atCursor_append_shift hne hblocks _ hle

/-- What follows completes the opening delimiter that the text broke off in. -/
theorem scan_of_appended_to_half_a_delimiter :
    let found := Delimiters.standard.scan "<?php 1 ?><?ph"
    let more := Delimiters.standard.scan ("<?php 1 ?><?ph" ++ "p 2 ?>")
    found = [⟨0, 10⟩] ∧ more = [⟨0, 10⟩, ⟨10, 20⟩] ∧ found ≠ [] ∧ 10 ≤ endOf 0 found ∧
      Tag.atCursor more 10 = Tag.atCursor found 10 := by
  intro found more
  have hfound : found = [⟨0, 10⟩] := by decide +kernel
  have hne : found ≠ [] := by simp [hfound]
  have hle : 10 ≤ endOf 0 found := by simp [hfound]
  obtain ⟨-, -, htag⟩ := scan_of_appended Delimiters.standard "<?php 1 ?><?ph" "p 2 ?>"
  exact ⟨hfound, by decide +kernel, hne, hle, htag hne 10 hle⟩

end Delimiters

end Bilingual
