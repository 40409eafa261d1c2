import Bilingual.Proofs.Uri.Escapes
import Bilingual.Uri.Parse

/-!
Paths of URIs that were read hold no character that has to be escaped, because each
segment is escaped as it is read. Only a path that does not begin with a slash may hold
more: there control characters alone are escaped.
-/

namespace Bilingual.Uri

open Percent (inPath isControl encode)

/-- No character has to be escaped. -/
def Clear (inSet : Char → Bool) (cs : List Char) : Prop := ∀ c ∈ cs, inSet c = false

variable {cs : List Char} {c : Char}

theorem clear_nil {inSet : Char → Bool} : Clear inSet [] := fun _ h => absurd h List.not_mem_nil

theorem clear_inPath (cs : List Char) : Clear inPath (encode inPath cs) :=
  Percent.clear_encode (by decide) (by decide) cs

theorem clear_isControl (cs : List Char) : Clear isControl (encode isControl cs) :=
  Percent.clear_encode (by decide) (by decide) cs

theorem Clear.isControl (h : Clear inPath cs) : Clear isControl cs := by
  intro c hc
  have hclear := h c hc
  simp only [Percent.inPath, Percent.inFragment, Bool.or_eq_false_iff] at hclear
  exact hclear.1.1

/-- Letters lie between the control characters. -/
theorem isControl_of_isAlpha (h : c.isAlpha = true) : Percent.isControl c = false := by
  change (decide (65 ≤ c.val ∧ c.val ≤ 90) ||
    decide (97 ≤ c.val) && decide (c.val ≤ 122)) = true at h
  simp only [Bool.or_eq_true, Bool.and_eq_true, decide_eq_true_eq,
    UInt32.le_iff_toNat_le, UInt32.toNat_ofNat] at h
  simp only [Percent.isControl, Bool.or_eq_false_iff, decide_eq_false_iff_not,
    UInt32.lt_iff_toNat_lt, UInt32.le_iff_toNat_le, UInt32.toNat_ofNat]
  omega

theorem inPath_of_isAlpha (h : c.isAlpha = true) : inPath c = false := by
  have hlisted : (" \"<>\x60".toList ++ "#?\x7b\x7d".toList).all (·.isAlpha == false) = true := by
    decide
  rw [Bool.eq_false_iff]
  intro hin
  simp only [Percent.inPath, Percent.inFragment, isControl_of_isAlpha h, Bool.false_or,
    Bool.or_eq_true, List.contains_iff_mem, ← List.mem_append] at hin
  have hother : c.isAlpha = false := eq_of_beq (List.all_eq_true.1 hlisted c hin)
  cases h.symm.trans hother

theorem clear_drive (h : c.isAlpha = true) : Clear inPath [c, ':'] := by
  intro c' hc'
  rcases List.mem_cons.1 hc' with rfl | hc'
  · exact inPath_of_isAlpha h
  · obtain rfl := List.mem_singleton.1 hc'
    decide

namespace Segments

theorem isAlpha_of_isDriveLetter {c mark : Char} (h : isDriveLetter [c, mark] = true) :
    c.isAlpha = true := by
  simp only [isDriveLetter, Bool.and_eq_true] at h
  exact h.1

theorem isAlpha_of_setOff? {raw rest : List Char} {c : Char}
    (h : setOff? raw = some (c, rest)) : c.isAlpha = true := by
  unfold setOff? at h
  split at h
  · split at h
    · next hc =>
        cases h
        simp only [Bool.and_eq_true] at hc
        exact hc.1
    · cases h
  · cases h

namespace Trail

/-- No segment read so far holds a character that has to be escaped. -/
def Clear (t : Trail) : Prop := ∀ s ∈ t.segments, Uri.Clear inPath s

variable {t : Trail} {s : List Char}

theorem Clear.push (h : t.Clear) (hs : Uri.Clear inPath s) : (t.push s).Clear := by
  intro s' hs'
  rcases List.mem_append.1 hs' with hs' | hs'
  · exact h s' hs'
  · obtain rfl := List.mem_singleton.1 hs'
    exact hs

theorem Clear.up (h : t.Clear) : t.up.Clear := by
  unfold Trail.up
  split
  · split
    · exact h
    · exact fun s hs => h s (List.dropLast_subset _ hs)
  · exact h

theorem Clear.enter (h : t.Clear) (isFile : Bool) (raw : List Char) :
    (t.enter isFile raw).Clear := by
  have hs := clear_inPath (raw.filter (!isBreak ·))
  simp only [Trail.enter]
  generalize encode inPath (raw.filter (!isBreak ·)) = s at hs ⊢
  split
  · exact h.up
  · split
    · exact h
    · split
      · split
        · next hset _ _ =>
            exact (h.push (clear_drive (isAlpha_of_setOff? hset))).push (clear_inPath _)
        · split
          · next hdrive =>
              intro s hs
              obtain rfl := List.mem_singleton.1 hs
              exact clear_drive (isAlpha_of_isDriveLetter hdrive)
          · exact h.push hs
        · exact h.push hs
      · exact h.push hs

theorem Clear.follow (h : t.Clear) (isFile : Bool) (pieces : List (List Char)) :
    (t.follow isFile pieces).Clear := by
  fun_induction t.follow isFile pieces with
  | case1 t => exact h
  | case2 t last t' s hdots => exact (h.enter isFile last).push clear_nil
  | case3 t last t' s hdots => exact h.enter isFile last
  | case4 t s rest hrest ih => exact ih (h.enter isFile s)

end Trail

theorem dropEmpty_subset (ss : List (List Char)) : dropEmpty ss ⊆ ss := by
  fun_induction dropEmpty ss with
  | case1 s rest ih => exact fun x hx => List.mem_cons_of_mem _ (ih hx)
  | case2 ss _ => exact List.Subset.refl ss

theorem clear_ofPath (isSpecial isFile : Bool) (path : List Char) :
    (ofPath isSpecial isFile path).Clear := by
  have hfollow : (Trail.follow isFile {} (Text.split
      (fun c => c = '/' || isSpecial && c = '\\') path)).Clear :=
    Trail.Clear.follow (fun s hs => absurd hs List.not_mem_nil) isFile _
  unfold ofPath
  split
  · exact fun s hs => hfollow s (dropEmpty_subset _ hs)
  · exact hfollow

theorem clear_text {t : Trail} (h : t.Clear) : Uri.Clear inPath (text t.segments).toList := by
  intro c hc
  rw [text, String.toList_ofList] at hc
  obtain ⟨s, hs, hc⟩ := List.mem_flatMap.1 hc
  rcases List.mem_cons.1 hc with rfl | hc
  · decide
  · exact h s hs c hc

end Segments

theorem clear_pathBehind (kind : Kind) (cs : List Char) :
    Clear inPath (pathBehind kind cs).toList := by
  unfold pathBehind
  split
  · split
    · exact clear_nil
    · intro c hc
      obtain rfl := List.mem_singleton.1 hc
      decide
  · exact Segments.clear_text (Segments.clear_ofPath _ _ _)

theorem clear_readFile {authority : Authority} {path : String}
    (h : readFile cs = .ok (authority, path)) : Clear inPath path.toList := by
  have hclear (cs : List Char) : Clear inPath
      (Segments.text (Segments.ofPath true true cs).segments).toList :=
    Segments.clear_text (Segments.clear_ofPath true true cs)
  simp only [readFile, bind, Except.bind, pure, Except.pure] at h
  split at h
  · cases h
    exact hclear _
  · split at h
    · cases h
      exact hclear _
    · split at h
      · cases h
        exact hclear _
      · split at h
        · cases h
          exact hclear _
        · split at h
          · cases h
          · split at h
            · cases h
              exact hclear _
            · cases h
              exact hclear _

/-- An escaped text begins with a slash only if the text did. -/
theorem head_of_head_encode {inSet : Char → Bool} {rest : List Char}
    (h : encode inSet cs = '/' :: rest) : ∃ rest', cs = '/' :: rest' := by
  cases cs with
  | nil => cases h
  | cons c cs =>
      rw [Percent.encode_cons] at h
      split at h
      · have hbytes : String.utf8EncodeChar c ≠ [] := by
          rw [← List.length_pos_iff, String.length_utf8EncodeChar]
          exact c.utf8Size_pos
        obtain ⟨b, bytes, hb⟩ := List.exists_cons_of_ne_nil hbytes
        rw [hb, List.flatMap_cons] at h
        exact absurd (List.cons.inj h).1 (by decide)
      · obtain ⟨rfl, -⟩ := List.cons.inj h
        exact ⟨cs, rfl⟩

/-- No control character and nothing outside ASCII. Behind a slash, nothing that has to be
escaped in a path. -/
def PathClear (path : String) : Prop :=
  Clear isControl path.toList ∧ (path.toList.head? = some '/' → Clear inPath path.toList)

theorem pathClear_of_clear {path : String} (h : Clear inPath path.toList) : PathClear path :=
  ⟨h.isControl, fun _ => h⟩

theorem pathClear_pathBehind (kind : Kind) (cs : List Char) : PathClear (pathBehind kind cs) :=
  pathClear_of_clear (clear_pathBehind kind cs)

theorem pathClear_opaque (h : ∀ rest, cs = '/' :: rest → False) :
    PathClear (String.ofList (encode isControl cs)) := by
  rw [PathClear, String.toList_ofList]
  refine ⟨clear_isControl cs, fun hhead => ?_⟩
  obtain ⟨rest, hrest⟩ := List.head?_eq_some_iff.1 hhead
  obtain ⟨rest', hrest'⟩ := head_of_head_encode hrest
  exact (h rest' hrest').elim

theorem pathClear_of_parse {s : String} {u : Uri} (h : parse s = .ok u) : PathClear u.path := by
  simp only [parse, bind, Except.bind, pure, Except.pure, throw, throwThe,
    MonadExceptOf.throw] at h
  split at h
  · cases h
  · split at h
    · split at h
      · cases h
      · next hread =>
          cases h
          exact pathClear_of_clear (clear_readFile hread)
    · split at h
      · cases h
      · cases h
        exact pathClear_pathBehind _ _
    · split at h
      · cases h
      · cases h
        exact pathClear_pathBehind _ _
    · cases h
      dsimp only
      exact pathClear_pathBehind _ _
    · next hslash =>
        cases h
        exact pathClear_opaque hslash

end Bilingual.Uri
